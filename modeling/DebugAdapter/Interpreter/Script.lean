import DebugAdapter.Interpreter.Run

/-! # Children as engines

The script of an engine that runs a child: the lines that the child writes, and its end. Waiting
takes no time there. -/

namespace DebugAdapter

open Evaluation Protocol

/-- A script that writes some lines before another one. -/
def writing (category : OutputCategory) (lines : List Bytes) (rest : Script) : Script :=
  lines.foldr (Script.write category) rest

/-- The script of a child whose output lines were begun. -/
def Child.script (out err : Bytes) : Child → Script
  | .ended status =>
    writing .stdout (if out.isEmpty then [] else [out]) <|
      writing .stderr (if err.isEmpty then [] else [err]) <|
        .finish (Run.outcome {} status)
  | .write .out bytes next =>
    let (lines, out) := cutLines (out ++ bytes)
    writing .stdout lines (script out err (next true))
  | .write .err bytes next =>
    let (lines, err) := cutLines (err ++ bytes)
    writing .stderr lines (script out err (next true))
  | .pause _ next => script out err (next false)

end DebugAdapter
