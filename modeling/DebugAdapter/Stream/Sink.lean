import DebugAdapter.Stream.Error
import DebugAdapter.Text.Utf8

/-! # Writing streams

A sink takes each write as a whole or in part, or fails it. What becomes of each write and of each
flush is a schedule fixed beforehand. A sink can be closed once, after which nothing reaches it. -/

namespace DebugAdapter

/-- The outcomes of a series of operations. -/
structure Schedule (α : Type) where
  /-- The outcomes of the first operations. -/
  first : List α := []
  /-- The outcome of every later one. -/
  later : α
  deriving DecidableEq, Repr

namespace Schedule

variable {α : Type}

/-- The outcome of the next operation. -/
def now (s : Schedule α) : α :=
  match s.first with
  | [] => s.later
  | outcome :: _ => outcome

def advance (s : Schedule α) : Schedule α := { s with first := s.first.drop 1 }

/-- Every operation has the same outcome. -/
def always (outcome : α) : Schedule α := { later := outcome }

/-- Only the operation with a given number has an outcome of its own, counted from one. -/
def only (number : Nat) (outcome usual : α) : Schedule α :=
  if number = 0 then always usual
  else { first := List.replicate (number - 1) usual ++ [outcome], later := usual }

end Schedule

/-- What a stream does with one write. -/
inductive Intake where
  /-- It takes all bytes. -/
  | whole
  /-- It takes the first bytes, so many at most. -/
  | part (most : Nat)
  | failure (e : IoError)
  deriving DecidableEq, Repr

/-- The bytes that are taken of a write. -/
def Intake.accept (bytes : Bytes) : Intake → Except IoError Bytes
  | .whole => .ok bytes
  | .part most => .ok (bytes.take most)
  | .failure e => .error e

/-- What a stream does with a series of writes. It is not interrupted for ever. -/
structure Intakes extends Schedule Intake where
  relents : later ≠ .failure .interrupted := by decide
  deriving DecidableEq

namespace Intakes

def advance (s : Intakes) : Intakes := { s with toSchedule := s.toSchedule.advance }

/-- Every write is taken as a whole. -/
def whole : Intakes := { later := .whole }

/-- Every write is taken as a whole, except that the one with a given number fails. -/
def only (number : Nat) (e : IoError) : Intakes where
  toSchedule := .only number (.failure e) .whole
  relents := by
    unfold Schedule.only Schedule.always
    split <;> simp

end Intakes

structure Sink where
  attached : Bool := true
  /-- What each write has left, the last one first. -/
  written : List Bytes := []
  writes : Intakes := .whole
  flushes : Schedule (Option IoError) := .always none
  deriving DecidableEq

namespace Sink

/-- What each write has left, in order. -/
def received (s : Sink) : List Bytes := s.written.reverse

/-- All bytes that were written. -/
def bytes (s : Sink) : Bytes := s.received.flatten

/-- One write. The result is how many bytes were taken. -/
def write (s : Sink) (bytes : Bytes) : Except IoError Nat × Sink :=
  if s.attached then
    match s.writes.now.accept bytes with
    | .ok taken =>
      (.ok taken.length, { s with written := taken :: s.written, writes := s.writes.advance })
    | .error e => (.error e, { s with writes := s.writes.advance })
  else (.error .brokenPipe, s)

/-- `writeAll`, in at most so many writes. -/
def writeWithin : Nat → Sink → Bytes → Except IoError Unit × Sink
  | _, s, [] => (.ok (), s)
  | 0, s, _ => (.error .writeZero, s)
  | bound + 1, s, bytes =>
    match s.write bytes with
    | (.ok 0, s) => (.error .writeZero, s)
    | (.ok taken, s) => writeWithin bound s (bytes.drop taken)
    | (.error .interrupted, s) => writeWithin bound s bytes
    | (.error e, s) => (.error e, s)

/-- Writes what was not taken yet until all bytes are, interruptions ignored. A write that is not
the last one takes a byte or uses up one of the first outcomes, so there are no more of them. -/
def writeAll (s : Sink) (bytes : Bytes) : Except IoError Unit × Sink :=
  writeWithin (s.writes.first.length + bytes.length) s bytes

def flush (s : Sink) : Except IoError Unit × Sink :=
  if s.attached then
    match s.flushes.now with
    | none => (.ok (), { s with flushes := s.flushes.advance })
    | some e => (.error e, { s with flushes := s.flushes.advance })
  else (.ok (), s)

/-- Closes the sink after a last flush. If the flush fails, the sink stays open. -/
def close (s : Sink) : Except IoError Unit × Sink :=
  if s.attached then
    match s.flush with
    | (.ok (), s) => (.ok (), { s with attached := false })
    | result => result
  else (.error .notConnected, s)

end Sink

end DebugAdapter
