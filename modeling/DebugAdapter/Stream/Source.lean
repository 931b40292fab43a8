import DebugAdapter.Stream.Error
import DebugAdapter.Text.Utf8

/-! # Reading streams

A feed is a stream of bytes that decides for itself how many bytes each read gets, and that
fails at given positions. It can be closed once, after which it is at its end. A source reads a feed
through a buffer of fixed capacity. -/

namespace DebugAdapter

/-- A read at a position fails once. -/
structure Fault where
  offset : Nat
  error : IoError
  deriving DecidableEq, Repr

/-- A stream of bytes. The read at a position hands out at most `pace position + 1` bytes and
never reaches beyond the next fault. -/
structure Feed where
  attached : Bool := true
  rest : Bytes
  position : Nat := 0
  pace : Nat → Nat
  faults : List Fault := []
  /-- Why the stream cannot be closed, if it cannot. -/
  refusal : Option IoError := none

namespace Feed

/-- How far it is to the next fault, if there is one. -/
def faultDistance? (feed : Feed) : Option Nat :=
  (feed.faults.filterMap fun f =>
    if feed.position < f.offset then some (f.offset - feed.position) else none).min?

/-- How many bytes a read for `wanted` bytes gets if it does not fail. -/
def allowance (feed : Feed) (wanted : Nat) : Nat :=
  let n := min wanted (feed.pace feed.position + 1)
  match feed.faultDistance? with
  | some d => min n d
  | none => n

/-- One read for at most `wanted` bytes. No bytes mean the end of the stream. -/
def read (feed : Feed) (wanted : Nat) : Except IoError Bytes × Feed :=
  if feed.attached then
    match feed.faults.find? (·.offset == feed.position) with
    | some fault => (.error fault.error, { feed with faults := feed.faults.erase fault })
    | none =>
      let n := feed.allowance wanted
      let bytes := feed.rest.take n
      (.ok bytes,
        { feed with rest := feed.rest.drop n, position := feed.position + bytes.length })
  else (.ok [], feed)

/-- Closes the feed. -/
def close (feed : Feed) : Except IoError Unit × Feed :=
  if feed.attached then
    match feed.refusal with
    | none => (.ok (), { feed with attached := false })
    | some e => (.error e, feed)
  else (.error .notConnected, feed)

end Feed

/-- A feed behind a buffer. -/
structure Source where
  feed : Feed
  /-- How many bytes the buffer holds. -/
  capacity : Nat := 8192
  buffer : Bytes := []

namespace Source

/-- The bytes in the buffer, which is filled by one read if it is empty. -/
def available (s : Source) : Except IoError Bytes × Source :=
  if s.buffer.isEmpty then
    match s.feed.read s.capacity with
    | (.ok bytes, feed) => (.ok bytes, { s with feed, buffer := bytes })
    | (.error e, feed) => (.error e, { s with feed })
  else (.ok s.buffer, s)

/-- The bytes in the buffer, interruptions ignored. Every interruption is a fault of the feed,
so there are no more of them than faults. -/
def ready (s : Source) : Except IoError Bytes × Source :=
  persist available s.feed.faults.length s

/-- The source without the first bytes of its buffer. -/
def consume (s : Source) (n : Nat) : Source := { s with buffer := s.buffer.drop n }

/-- One byte, or nothing at the end of the stream. A byte that the buffer cannot hold comes
straight from the feed. -/
def pull (s : Source) : Except IoError (Option UInt8) × Source :=
  if s.capacity = 0 ∧ s.buffer.isEmpty then
    match s.feed.read 1 with
    | (.ok bytes, feed) => (.ok bytes.head?, { s with feed })
    | (.error e, feed) => (.error e, { s with feed })
  else
    match s.available with
    | (.ok bytes, s) => (.ok bytes.head?, s.consume 1)
    | (.error e, s) => (.error e, s)

/-- One byte, interruptions ignored. -/
def next (s : Source) : Except IoError (Option UInt8) × Source :=
  persist pull s.feed.faults.length s

/-- Closes the feed. What is in the buffer can still be read. -/
def close (s : Source) : Except IoError Unit × Source :=
  let (result, feed) := s.feed.close
  (result, { s with feed })

end Source

end DebugAdapter
