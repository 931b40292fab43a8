import DebugAdapter.Evaluation.Engine

/-! # Interpreters

The program that evaluates other programs, and how it is told which one to evaluate. -/

namespace DebugAdapter

open Evaluation

structure Interpreter where
  /-- A path, or a name to look up. -/
  command : String := "sh"
  /-- What precedes a program that is given as text. Nothing if it is empty. -/
  sourceFlag : String := "-c"
  /-- What precedes the program in any case. -/
  arguments : List String := []
  deriving DecidableEq, Repr

/-- What the interpreter is started with. -/
def Interpreter.argumentsFor (i : Interpreter) : Program → List String
  | .source text =>
    i.arguments ++ if i.sourceFlag.isEmpty then [text] else [i.sourceFlag, text]
  | .path path => i.arguments ++ [path]

end DebugAdapter
