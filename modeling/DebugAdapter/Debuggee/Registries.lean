import DebugAdapter.Debuggee.Handles
import DebugAdapter.Debuggee.Stop
import DebugAdapter.Debuggee.ThreadTable
import DebugAdapter.Protocol.EventBodies
import DebugAdapter.Protocol.Parts
import DebugAdapter.Text.Path

/-! # Registries

What the client can see of a stopped debuggee: which threads are stopped, and the frames and
the variables behind the handles of the latest stop. -/

namespace DebugAdapter.Debuggee

open Protocol

/-- The number of the channel on which a stopped engine waits. -/
abbrev Channel := Nat

/-- The stop of a thread that did not go on yet. -/
structure StopEvent where
  thread : Int64
  /-- The handles of the frames, innermost first, as long as this is the latest stop. -/
  frameIds : List Nat
  resume : Channel
  deriving DecidableEq

/-- A frame behind a handle. -/
structure Frame where
  name : String
  source : Option Protocol.Source
  line : Int64
  column : Int64
  scopes : List Scope
  deriving DecidableEq

namespace Frame

/-- The frame as it is listed under its handle. -/
def listed (f : Frame) (id : Nat) : StackFrame :=
  { id := Int64.ofNat id, name := f.name, source := f.source, line := f.line, column := f.column }

/-- The frame of a report, with the scopes it was given. -/
def ofInfo (info : FrameInfo) (scopes : List Scope) : Frame :=
  { name := info.name
    source := info.path.map fun path => { name := Text.fileName? path, path := some path }
    line := info.line
    column := info.column
    scopes }

end Frame

/-- The variables of a scope. Their values have no inner variables. -/
def ScopeInfo.listed (info : ScopeInfo) : List Variable :=
  info.members.map fun v =>
    { name := v.name, value := v.value, typeName := v.typeName, variablesReference := 0 }

/-- A scope whose variables are behind a handle. -/
def ScopeInfo.scope (info : ScopeInfo) (handle : Nat) : Scope :=
  { name := info.name, variablesReference := Int64.ofNat handle, expensive := false }

structure Registries where
  events : ThreadTable StopEvent := {}
  frames : Handles Frame := {}
  locals : Handles (List Variable) := {}
  deriving DecidableEq

/-- What the client is told about a stop. -/
def DebugStop.body (stop : DebugStop) : StoppedBody :=
  { reason := stop.reason, description := stop.description, threadId := some stop.thread,
    allThreadsStopped := some false }

end DebugAdapter.Debuggee
