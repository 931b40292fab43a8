import DebugAdapter.Protocol.Arguments
import DebugAdapter.Protocol.Error
import DebugAdapter.Protocol.EventBodies
import DebugAdapter.Protocol.ResponseBodies

/-! # Payloads

What a message carries besides its envelope. Each of the three sets of payloads is closed: a
table gives, for the name of a command or an event, how the one payload with that name is read
from a value. -/

namespace DebugAdapter.Protocol

open Json

/-- How each member of a set of payloads is read, by name. -/
abbrev PayloadTable (α : Type) := List (String × (Value → Option α))

/-- The payload of a name, read from a value. -/
def PayloadTable.decode {α : Type} (table : PayloadTable α) (unknown : String → Error)
    (name : String) (v : Value) : Except Error α :=
  match table.lookup name with
  | none => .error (unknown name)
  | some read =>
    match read v with
    | some payload => .ok payload
    | none => .error (.json .mismatched)

/-- Arguments without any field, whatever other members they have. -/
def noFields? : Value → Option Unit
  | .object _ => some ()
  | .array [] => some ()
  | _ => none

/-! ## Arguments of requests -/

inductive RequestArguments where
  | initialization (arguments : InitializeArguments)
  | launch (arguments : LaunchArguments)
  | configurationDone
  | threads
  | terminate (arguments : TerminateArguments)
  | disconnect (arguments : DisconnectArguments)
  | stackTrace (arguments : StackTraceArguments)
  | scopes (arguments : ScopesArguments)
  | variableList (arguments : VariablesArguments)
  | resume (arguments : ContinueArguments)
  deriving DecidableEq

namespace RequestArguments

/-- The command that the arguments belong to. -/
def name : RequestArguments → String
  | initialization _ => "initialize"
  | launch _ => "launch"
  | configurationDone => "configurationDone"
  | threads => "threads"
  | terminate _ => "terminate"
  | disconnect _ => "disconnect"
  | stackTrace _ => "stackTrace"
  | scopes _ => "scopes"
  | variableList _ => "variables"
  | resume _ => "continue"

def table : PayloadTable RequestArguments := [
  ("initialize", fun v => (Record.ofValue? v).map initialization),
  ("launch", fun v => (LaunchArguments.ofValue? v).map launch),
  ("configurationDone", fun v => (noFields? v).map fun _ => configurationDone),
  ("threads", fun v => (noFields? v).map fun _ => threads),
  ("terminate", fun v => (Record.ofValue? v).map terminate),
  ("disconnect", fun v => (Record.ofValue? v).map disconnect),
  ("stackTrace", fun v => (Record.ofValue? v).map stackTrace),
  ("scopes", fun v => (Record.ofValue? v).map scopes),
  ("variables", fun v => (Record.ofValue? v).map variableList),
  ("continue", fun v => (Record.ofValue? v).map resume)]

def decode (name : String) (v : Value) : Except Error RequestArguments :=
  table.decode .unrecognizedCommand name v

def toValue : RequestArguments → Value
  | initialization a => Record.toValue a
  | launch a => a.toValue
  | configurationDone => .object []
  | threads => .object []
  | terminate a => Record.toValue a
  | disconnect a => Record.toValue a
  | stackTrace a => Record.toValue a
  | scopes a => Record.toValue a
  | variableList a => Record.toValue a
  | resume a => Record.toValue a

end RequestArguments

/-! ## Bodies of responses -/

inductive ResponseBody where
  | capabilities (body : Capabilities)
  | threads (body : ThreadsBody)
  | stackTrace (body : StackTraceBody)
  | scopes (body : ScopesBody)
  | variableList (body : VariablesBody)
  | resumed (body : ContinueBody)
  | error (body : ErrorBody)
  deriving DecidableEq

namespace ResponseBody

/-- The command that a body answers; error bodies have a name of their own. -/
def name : ResponseBody → String
  | capabilities _ => "initialize"
  | threads _ => "threads"
  | stackTrace _ => "stackTrace"
  | scopes _ => "scopes"
  | variableList _ => "variables"
  | resumed _ => "continue"
  | error _ => "error"

def table : PayloadTable ResponseBody := [
  ("initialize", fun v => (Record.ofValue? v).map capabilities),
  ("threads", fun v => (Record.ofValue? v).map threads),
  ("stackTrace", fun v => (Record.ofValue? v).map stackTrace),
  ("scopes", fun v => (Record.ofValue? v).map scopes),
  ("variables", fun v => (Record.ofValue? v).map variableList),
  ("continue", fun v => (Record.ofValue? v).map resumed),
  ("error", fun v => (Record.ofValue? v).map error)]

def decode (name : String) (v : Value) : Except Error ResponseBody :=
  table.decode .unrecognizedCommand name v

/-- The body of a response to a command. Bodies of failed responses are error bodies. -/
def decodeFor (command : String) (success : Bool) (v : Value) : Except Error ResponseBody :=
  decode (if success then command else "error") v

def toValue : ResponseBody → Value
  | capabilities b => Record.toValue b
  | threads b => Record.toValue b
  | stackTrace b => Record.toValue b
  | scopes b => Record.toValue b
  | variableList b => Record.toValue b
  | resumed b => Record.toValue b
  | error b => Record.toValue b

def isError : ResponseBody → Bool
  | error _ => true
  | _ => false

end ResponseBody

/-! ## Bodies of events -/

inductive EventBody where
  | output (body : OutputBody)
  | stopped (body : StoppedBody)
  | continued (body : ContinuedBody)
  | exited (body : ExitedBody)
  | terminated (body : TerminatedBody)
  | thread (body : ThreadBody)
  deriving DecidableEq

namespace EventBody

/-- The event that a body belongs to. -/
def name : EventBody → String
  | output _ => "output"
  | stopped _ => "stopped"
  | continued _ => "continued"
  | exited _ => "exited"
  | terminated _ => "terminated"
  | thread _ => "thread"

def table : PayloadTable EventBody := [
  ("output", fun v => (Record.ofValue? v).map output),
  ("stopped", fun v => (Record.ofValue? v).map stopped),
  ("continued", fun v => (Record.ofValue? v).map continued),
  ("exited", fun v => (Record.ofValue? v).map exited),
  ("terminated", fun v => (Record.ofValue? v).map terminated),
  ("thread", fun v => (Record.ofValue? v).map thread)]

def decode (name : String) (v : Value) : Except Error EventBody :=
  table.decode .unrecognizedEvent name v

def toValue : EventBody → Value
  | output b => Record.toValue b
  | stopped b => Record.toValue b
  | continued b => Record.toValue b
  | exited b => Record.toValue b
  | terminated b => Record.toValue b
  | thread b => Record.toValue b

end EventBody

end DebugAdapter.Protocol
