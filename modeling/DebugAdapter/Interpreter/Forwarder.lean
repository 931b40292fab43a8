import DebugAdapter.Stream.Sink

/-! # Passing on output by lines

The output of a program arrives in pieces of any size. It is passed on by lines: every write
ends after a line, save perhaps the last one. -/

namespace DebugAdapter

/-- The lines of some bytes, each with its end, and what follows the last one. -/
def cutLines : Bytes → List Bytes × Bytes
  | [] => ([], [])
  | b :: rest =>
    let (lines, last) := cutLines rest
    if b = 0x0A then ([b] :: lines, last)
    else match lines with
      | line :: lines => ((b :: line) :: lines, last)
      | [] => ([], b :: last)

/-- The writes in which some bytes are passed on. -/
def lineWrites (bytes : Bytes) : List Bytes :=
  let (lines, last) := cutLines bytes
  if last.isEmpty then lines else lines ++ [last]

structure Forwarder where
  sink : Sink := {}
  /-- The start of a line whose end did not arrive yet. -/
  line : Bytes := []
  /-- Whether a write failed. Nothing is passed on after that. -/
  stopped : Bool := false
  deriving DecidableEq

namespace Forwarder

/-- Passes on some bytes in one write. -/
def pass (f : Forwarder) (bytes : Bytes) : Forwarder :=
  if f.stopped then f
  else match f.sink.writeAll bytes with
    | (.ok (), sink) => { f with sink }
    | (.error _, sink) => { f with sink, stopped := true }

/-- More output arrives. -/
def receive (f : Forwarder) (bytes : Bytes) : Forwarder :=
  let (lines, last) := cutLines (f.line ++ bytes)
  { lines.foldl pass f with line := last }

/-- No more output arrives. -/
def finish (f : Forwarder) : Forwarder :=
  let f := if f.line.isEmpty then f else { f.pass f.line with line := [] }
  { f with sink := f.sink.flush.2 }

end Forwarder

end DebugAdapter
