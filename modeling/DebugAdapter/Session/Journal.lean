import DebugAdapter.Protocol.Error
import DebugAdapter.Text.Utf8

/-! # Journals

What a session reports about itself: the traffic, if it is traced, and a log. -/

namespace DebugAdapter.Session

open Protocol

/-- A record of the trace. -/
inductive TraceRecord where
  /-- The payload of a message that was received. -/
  | inbound (payload : Bytes)
  /-- The payload of a message that was sent. -/
  | outbound (payload : Bytes)
  /-- What was received is no message. -/
  | failed (e : Error)
  | note (text : String)
  deriving DecidableEq, Repr

def TraceRecord.text : TraceRecord → String
  | .inbound payload => "> " ++ Utf8.decodeLossy payload
  | .outbound payload => "< " ++ Utf8.decodeLossy payload
  | .failed e => "> ERR " ++ e.message
  | .note text => text

inductive Level where
  | debug
  | info
  | warn
  deriving DecidableEq, Repr

structure LogLine where
  level : Level
  text : String
  deriving DecidableEq, Repr

/-- The records so far, the last one first. -/
structure Journal where
  traced : Bool := false
  records : List TraceRecord := []
  lines : List LogLine := []
  deriving DecidableEq, Repr

namespace Journal

/-- The records of the trace, in order. -/
def trace (j : Journal) : List TraceRecord := j.records.reverse

/-- The lines of the log, in order. -/
def log (j : Journal) : List LogLine := j.lines.reverse

/-- Adds a record, if the traffic is traced. -/
def record (j : Journal) (r : TraceRecord) : Journal :=
  if j.traced then { j with records := r :: j.records } else j

def write (j : Journal) (level : Level) (text : String) : Journal :=
  { j with lines := ⟨level, text⟩ :: j.lines }

end Journal

/-- A sequence number as text. -/
def seqText (seq : Int64) : String :=
  if seq < 0 then "-" ++ Nat.repr seq.toInt.natAbs else Nat.repr seq.toInt.natAbs

end DebugAdapter.Session
