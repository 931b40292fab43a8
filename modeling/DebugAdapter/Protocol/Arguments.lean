import DebugAdapter.Protocol.Parts

/-! # Arguments of requests -/

namespace DebugAdapter.Protocol

open Json

/-- Who the client is and what it can show. -/
structure InitializeArguments where
  clientId : Option String := none
  clientName : Option String := none
  adapterId : Option String := none
  locale : Option String := none
  /-- Whether lines are counted from one. -/
  linesStartAt1 : Option Bool := none
  /-- Whether columns are counted from one. -/
  columnsStartAt1 : Option Bool := none
  pathFormat : Option String := none
  supportsVariableType : Option Bool := none
  supportsRunInTerminalRequest : Option Bool := none
  deriving DecidableEq

instance : Record InitializeArguments where
  names := ["clientID", "clientName", "adapterID", "locale", "linesStartAt1", "columnsStartAt1",
    "pathFormat", "supportsVariableType", "supportsRunInTerminalRequest"]
  fields a := [a.clientId.map Value.string, a.clientName.map Value.string,
    a.adapterId.map Value.string, a.locale.map Value.string, a.linesStartAt1.map Value.bool,
    a.columnsStartAt1.map Value.bool, a.pathFormat.map Value.string,
    a.supportsVariableType.map Value.bool, a.supportsRunInTerminalRequest.map Value.bool]
  ofFields?
    | [clientId, clientName, adapterId, locale, linesStartAt1, columnsStartAt1, pathFormat,
          supportsVariableType, supportsRunInTerminalRequest] => do
      return ⟨← Value.optional Value.string? clientId, ← Value.optional Value.string? clientName,
        ← Value.optional Value.string? adapterId, ← Value.optional Value.string? locale,
        ← Value.optional Value.bool? linesStartAt1, ← Value.optional Value.bool? columnsStartAt1,
        ← Value.optional Value.string? pathFormat,
        ← Value.optional Value.bool? supportsVariableType,
        ← Value.optional Value.bool? supportsRunInTerminalRequest⟩
    | _ => none

/-- How to start the debuggee. Whatever else the client sends is kept as it is. -/
structure LaunchArguments where
  noDebug : Option Bool := none
  additional : FreeMembers := .empty
  deriving DecidableEq

/-- The key of the one field of a launch that has a meaning of its own. -/
def noDebugKey : String := "noDebug"

def LaunchArguments.toValue (a : LaunchArguments) : Value :=
  .object ((a.noDebug.map fun b => (noDebugKey, Value.bool b)).toList ++ a.additional.members)

/-- A launch is always an object. -/
def LaunchArguments.ofValue? : Value → Option LaunchArguments
  | .object members => do
    let noDebug ← Value.optional Value.bool? ((Value.lookup? noDebugKey members).bind Record.present)
    return ⟨noDebug, .ofMembers (members.filter (·.1 != noDebugKey))⟩
  | _ => none

structure TerminateArguments where
  restart : Option Bool := none
  deriving DecidableEq

instance : Record TerminateArguments where
  names := ["restart"]
  fields a := [a.restart.map Value.bool]
  ofFields?
    | [restart] => do
      return ⟨← Value.optional Value.bool? restart⟩
    | _ => none

structure DisconnectArguments where
  restart : Option Bool := none
  terminateDebuggee : Option Bool := none
  suspendDebuggee : Option Bool := none
  deriving DecidableEq

instance : Record DisconnectArguments where
  names := ["restart", "terminateDebuggee", "suspendDebuggee"]
  fields a := [a.restart.map Value.bool, a.terminateDebuggee.map Value.bool,
    a.suspendDebuggee.map Value.bool]
  ofFields?
    | [restart, terminateDebuggee, suspendDebuggee] => do
      return ⟨← Value.optional Value.bool? restart,
        ← Value.optional Value.bool? terminateDebuggee,
        ← Value.optional Value.bool? suspendDebuggee⟩
    | _ => none

/-- Which frames of a stopped thread to list. -/
structure StackTraceArguments where
  threadId : Int64
  /-- The first frame to list. -/
  startFrame : Option Int64 := none
  /-- How many frames to list at most. -/
  levels : Option Int64 := none
  deriving DecidableEq

instance : Record StackTraceArguments where
  names := ["threadId", "startFrame", "levels"]
  fields a := [some (.int64 a.threadId), a.startFrame.map Value.int64, a.levels.map Value.int64]
  ofFields?
    | [threadId, startFrame, levels] => do
      return ⟨← Value.required Value.int64? threadId, ← Value.optional Value.int64? startFrame,
        ← Value.optional Value.int64? levels⟩
    | _ => none

structure ScopesArguments where
  frameId : Int64
  deriving DecidableEq

instance : Record ScopesArguments where
  names := ["frameId"]
  fields a := [some (.int64 a.frameId)]
  ofFields?
    | [frameId] => do
      return ⟨← Value.required Value.int64? frameId⟩
    | _ => none

/-- Which variables behind a handle to list. -/
structure VariablesArguments where
  variablesReference : Int64
  start : Option Int64 := none
  count : Option Int64 := none
  deriving DecidableEq

instance : Record VariablesArguments where
  names := ["variablesReference", "start", "count"]
  fields a := [some (.int64 a.variablesReference), a.start.map Value.int64,
    a.count.map Value.int64]
  ofFields?
    | [variablesReference, start, count] => do
      return ⟨← Value.required Value.int64? variablesReference,
        ← Value.optional Value.int64? start, ← Value.optional Value.int64? count⟩
    | _ => none

structure ContinueArguments where
  threadId : Int64
  singleThread : Option Bool := none
  deriving DecidableEq

instance : Record ContinueArguments where
  names := ["threadId", "singleThread"]
  fields a := [some (.int64 a.threadId), a.singleThread.map Value.bool]
  ofFields?
    | [threadId, singleThread] => do
      return ⟨← Value.required Value.int64? threadId, ← Value.optional Value.bool? singleThread⟩
    | _ => none

end DebugAdapter.Protocol
