/-! # Stops

What an engine reports when a thread of the debuggee stops: the stack with the innermost frame
first, and the variables of every frame in groups. -/

namespace DebugAdapter.Debuggee

structure VariableInfo where
  name : String
  value : String
  typeName : Option String := none
  deriving DecidableEq, Repr

structure ScopeInfo where
  name : String
  members : List VariableInfo := []
  deriving DecidableEq, Repr

structure FrameInfo where
  name : String
  path : Option String := none
  line : Int64
  column : Int64
  scopes : List ScopeInfo := []
  deriving DecidableEq, Repr

structure DebugStop where
  thread : Int64
  reason : String
  description : Option String := none
  frames : List FrameInfo := []
  deriving DecidableEq, Repr

end DebugAdapter.Debuggee
