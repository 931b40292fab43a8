import DebugAdapter.Text.Utf8

/-! # Child programs

What a program in a process of its own does, seen from outside: it writes to two streams, waits,
and ends. -/

namespace DebugAdapter

/-- A stream that a program writes to. -/
inductive OutputStream where
  | out
  | err
  deriving DecidableEq, Repr

/-- How a program ended. -/
inductive Status where
  | exited (code : UInt8)
  | killed (signal : Nat)
  deriving DecidableEq, Repr

/-- The code of a status: the one that the program chose, or the number of the signal that ended
it above 128. -/
def Status.code : Status → Int32
  | .exited code => Int32.ofNat code.toNat
  | .killed signal => Int32.ofNat (128 + signal)

inductive Child where
  | ended (status : Status)
  /-- Writes some bytes, and learns whether anybody still reads the stream. -/
  | write (stream : OutputStream) (bytes : Bytes) (next : Bool → Child)
  /-- Waits for so many milliseconds, and learns whether it was asked to end meanwhile. -/
  | pause (time : Nat) (next : Bool → Child)

end DebugAdapter
