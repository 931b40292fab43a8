import DebugAdapter.Debuggee.Stop
import DebugAdapter.Protocol.EventBodies
import DebugAdapter.Stream.Error

/-! # Engines

An engine evaluates a program. Seen from outside it writes output, reports stops and waits to be
resumed, and ends with a code or an error. -/

namespace DebugAdapter.Evaluation

open Debuggee Protocol

/-- Why an evaluation failed. -/
inductive EngineError where
  | spawn (program : String) (e : IoError)
  | io (e : IoError)
  | cancelled
  /-- The program itself ended with a code that reports a failure. -/
  | exit (code : Int32)
  | eval (text : String)
  deriving DecidableEq, Repr

/-- An integer in decimal notation. -/
def decimal (n : Int) : String := if n < 0 then "-" ++ Nat.repr n.natAbs else Nat.repr n.natAbs

def EngineError.message : EngineError → String
  | .spawn program e => "failed to start " ++ program ++ ": " ++ e.message
  | .io e => e.message
  | .cancelled => "evaluation cancelled"
  | .exit code => "program exited with code " ++ decimal code.toInt
  | .eval text => text

/-- How an evaluation ended. -/
inductive Outcome where
  | success (code : Int32)
  | failure (e : EngineError)
  /-- The engine could not be made; the causes come outermost first. -/
  | notCreated (causes : List String)
  /-- The engine could not be made because of an error that it could also have failed with later;
  what explains the error comes outermost first. -/
  | notCreatedBy (contexts : List String) (e : EngineError)
  deriving DecidableEq, Repr

/-- What to evaluate. -/
inductive Program where
  | source (text : String)
  | path (path : String)
  deriving DecidableEq, Repr

/-- What an engine does, one thing after the other. -/
inductive Script where
  | finish (outcome : Outcome)
  | write (category : OutputCategory) (bytes : Bytes) (next : Script)
  /-- Reports a stop and waits until it is resumed or refused. -/
  | stop (report : DebugStop) (resumed refused : Script)
  /-- Reports a stop on another thread of the engine, which waits there. -/
  | stopAside (report : DebugStop) (next : Script)
  /-- Waits for the end of the session. -/
  | awaitEnd (next : Script)
  deriving DecidableEq

end DebugAdapter.Evaluation
