import DebugAdapter.Debuggee.Registries
import DebugAdapter.Evaluation.Engine

/-! # The queue of an evaluation

An evaluation never talks to the client itself. What it produces goes into a queue, in order,
and one pump passes it on. -/

namespace DebugAdapter.Evaluation

open Debuggee Protocol

/-- Something that an evaluation produced. -/
inductive Item where
  | output (category : OutputCategory) (text : String)
  /-- A thread stopped; it waits on a channel. -/
  | stopped (report : DebugStop) (resume : Channel)
  | exited (code : Int32)
  | terminated
  deriving DecidableEq

/-- The items that were not taken yet, the oldest first. -/
structure Queue where
  items : List Item := []
  /-- Whether there is still a receiver. -/
  received : Bool := true
  deriving DecidableEq

namespace Queue

/-- Puts an item at the end. -/
def push (q : Queue) (item : Item) : Except IoError Unit × Queue :=
  if q.received then (.ok (), { q with items := q.items ++ [item] }) else (.error .brokenPipe, q)

/-- Takes the oldest item. -/
def pop (q : Queue) : Option Item × Queue :=
  match q.items with
  | [] => (none, q)
  | item :: items => (some item, { q with items })

/-- Nobody takes items any more. -/
def close (_ : Queue) : Queue := ⟨[], false⟩

/-- Writes output, whose bytes become text. Nothing is put into the queue for no bytes. -/
def write (q : Queue) (category : OutputCategory) (bytes : Bytes) : Except IoError Nat × Queue :=
  if bytes.isEmpty then (.ok 0, q)
  else match q.push (.output category (Utf8.decodeLossy bytes)) with
    | (.ok (), q) => (.ok bytes.length, q)
    | (.error e, q) => (.error e, q)

end Queue

/-- An error tells the code with which the program ended, if it ended by itself. -/
def EngineError.exited : EngineError → List Item
  | .exit code => [.exited code]
  | _ => []

/-- What an evaluation puts into the queue at its end. A failure is reported as output, one
level below the outermost cause. -/
def Outcome.items : Outcome → List Item
  | .success code => [.exited code, .terminated]
  | .failure e => .output .stderr (e.message ++ "\n") :: (e.exited ++ [.terminated])
  | .notCreated causes => [.output .stderr (causes.headD "" ++ "\n"), .terminated]
  | .notCreatedBy contexts e =>
    .output .stderr (contexts.headD e.message ++ "\n") :: (e.exited ++ [.terminated])

end DebugAdapter.Evaluation
