import DebugAdapter.Protocol.Parts

/-! # Bodies of responses -/

namespace DebugAdapter.Protocol

open Json

/-- What the adapter can do. -/
structure Capabilities where
  supportsConfigurationDoneRequest : Option Bool := none
  supportsTerminateRequest : Option Bool := none
  supportsRestartRequest : Option Bool := none
  supportsSetVariable : Option Bool := none
  supportsStepBack : Option Bool := none
  supportsEvaluateForHovers : Option Bool := none
  supportsDelayedStackTraceLoading : Option Bool := none
  deriving DecidableEq

instance : Record Capabilities where
  names := ["supportsConfigurationDoneRequest", "supportsTerminateRequest",
    "supportsRestartRequest", "supportsSetVariable", "supportsStepBack",
    "supportsEvaluateForHovers", "supportsDelayedStackTraceLoading"]
  fields a := [a.supportsConfigurationDoneRequest.map Value.bool,
    a.supportsTerminateRequest.map Value.bool, a.supportsRestartRequest.map Value.bool,
    a.supportsSetVariable.map Value.bool, a.supportsStepBack.map Value.bool,
    a.supportsEvaluateForHovers.map Value.bool, a.supportsDelayedStackTraceLoading.map Value.bool]
  ofFields?
    | [supportsConfigurationDoneRequest, supportsTerminateRequest, supportsRestartRequest,
          supportsSetVariable, supportsStepBack, supportsEvaluateForHovers,
          supportsDelayedStackTraceLoading] => do
      return ⟨← Value.optional Value.bool? supportsConfigurationDoneRequest,
        ← Value.optional Value.bool? supportsTerminateRequest,
        ← Value.optional Value.bool? supportsRestartRequest,
        ← Value.optional Value.bool? supportsSetVariable,
        ← Value.optional Value.bool? supportsStepBack,
        ← Value.optional Value.bool? supportsEvaluateForHovers,
        ← Value.optional Value.bool? supportsDelayedStackTraceLoading⟩
    | _ => none

structure ThreadsBody where
  threads : List Thread
  deriving DecidableEq

instance : Record ThreadsBody where
  names := ["threads"]
  fields a := [some (.listOf Record.toValue a.threads)]
  ofFields?
    | [threads] => do
      return ⟨← Value.required (Value.list? Record.ofValue?) threads⟩
    | _ => none

structure StackTraceBody where
  stackFrames : List StackFrame
  totalFrames : Option Int64 := none
  deriving DecidableEq

instance : Record StackTraceBody where
  names := ["stackFrames", "totalFrames"]
  fields a := [some (.listOf Record.toValue a.stackFrames), a.totalFrames.map Value.int64]
  ofFields?
    | [stackFrames, totalFrames] => do
      return ⟨← Value.required (Value.list? Record.ofValue?) stackFrames,
        ← Value.optional Value.int64? totalFrames⟩
    | _ => none

structure ScopesBody where
  scopes : List Scope
  deriving DecidableEq

instance : Record ScopesBody where
  names := ["scopes"]
  fields a := [some (.listOf Record.toValue a.scopes)]
  ofFields?
    | [scopes] => do
      return ⟨← Value.required (Value.list? Record.ofValue?) scopes⟩
    | _ => none

structure VariablesBody where
  members : List Variable
  deriving DecidableEq

instance : Record VariablesBody where
  names := ["variables"]
  fields a := [some (.listOf Record.toValue a.members)]
  ofFields?
    | [members] => do
      return ⟨← Value.required (Value.list? Record.ofValue?) members⟩
    | _ => none

structure ContinueBody where
  allThreadsContinued : Option Bool := none
  deriving DecidableEq

instance : Record ContinueBody where
  names := ["allThreadsContinued"]
  fields a := [a.allThreadsContinued.map Value.bool]
  ofFields?
    | [allThreadsContinued] => do
      return ⟨← Value.optional Value.bool? allThreadsContinued⟩
    | _ => none

/-- The body of a failed response. -/
structure ErrorBody where
  error : Option ErrorMessage := none
  deriving DecidableEq

instance : Record ErrorBody where
  names := ["error"]
  fields a := [a.error.map Record.toValue]
  ofFields?
    | [error] => do
      return ⟨← Value.optional Record.ofValue? error⟩
    | _ => none

end DebugAdapter.Protocol
