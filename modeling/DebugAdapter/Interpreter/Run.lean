import DebugAdapter.Evaluation.Engine
import DebugAdapter.Interpreter.Basic
import DebugAdapter.Interpreter.Child
import DebugAdapter.Interpreter.Forwarder

/-! # Running a child

A child runs while its output is passed on. When the context is done the child is asked to end,
and ended by force if it goes on for too long. -/

namespace DebugAdapter

open Evaluation

/-- For how many milliseconds a child may go on after it was asked to end. -/
def gracePeriod : Nat := 500

/-- How many bytes a child may write into a stream that nobody reads before it has to wait. -/
def pipeCapacity : Nat := 65536

structure Run where
  out : Forwarder := {}
  err : Forwarder := {}
  /-- Whether anybody still reads each stream, as far as the child can see. -/
  outRead : Bool := true
  errRead : Bool := true
  /-- How much was written to streams that failed. -/
  unread : Nat := 0
  /-- Whether the first write of output ends the context. -/
  cancelledByOutput : Bool := false
  /-- Whether the context is done. -/
  done : Bool := false
  /-- For how long the child went on after it was asked to end. -/
  overtime : Option Nat := none
  deriving DecidableEq

namespace Run

/-- The context is done as soon as a write of output went through that ends it. -/
def noticed (r : Run) : Run :=
  { r with done := r.done || r.cancelledByOutput && !r.out.sink.written.isEmpty }

def receive (r : Run) (bytes : Bytes) : OutputStream → Run
  | .out => { r with out := r.out.receive bytes }.noticed
  | .err => { r with err := r.err.receive bytes }

def isRead (r : Run) : OutputStream → Bool
  | .out => r.outRead
  | .err => r.errRead

def finish (r : Run) : Run := { r with out := r.out.finish, err := r.err.finish }.noticed

def isStopped (r : Run) : OutputStream → Bool
  | .out => r.out.stopped
  | .err => r.err.stopped

/-- Time passes, in which a stream that failed is closed. -/
def settle (r : Run) : Run := { r with outRead := !r.out.stopped, errRead := !r.err.stopped }

/-- Bytes were written. More of them than a stream takes that failed leave time to close it. -/
def fill (r : Run) (stream : OutputStream) (amount : Nat) : Run :=
  if !r.isStopped stream then r
  else if r.unread + amount ≤ pipeCapacity then { r with unread := r.unread + amount }
  else r.settle

/-- How an evaluation ends whose child ended. -/
def outcome (r : Run) (status : Status) : Outcome :=
  if r.done then .failure .cancelled
  else if status.code = 0 then .success 0
  else .failure (.exit status.code)

/-- Follows a child to its end. -/
def follow (r : Run) : Child → Outcome × Run
  | .ended status => let r := r.finish; (r.outcome status, r)
  | .write stream bytes next =>
    if r.isRead stream then
      let r := (r.receive bytes stream).fill stream bytes.length
      follow r (next (r.isRead stream))
    else follow r (next false)
  | .pause time next =>
    let r := r.settle
    match r.done, r.overtime with
    | false, _ => follow r (next false)
    | true, none => follow { r with overtime := some 0 } (next true)
    | true, some late =>
      if late + time < gracePeriod then
        follow { r with overtime := some (late + time) } (next false)
      else (.failure .cancelled, r.finish)

/-- Runs a child. A context that is done from the start leaves it no time to do anything. -/
def start (r : Run) (child : Child) : Outcome × Run :=
  if r.done then (.failure .cancelled, r.finish) else r.follow child

end Run

/-- Why there is no engine for an interpreter that cannot be found. -/
def Interpreter.notFound (command : String) : Outcome :=
  .notCreated ["interpreter `" ++ command ++ "` not found", "cannot find binary path"]

end DebugAdapter
