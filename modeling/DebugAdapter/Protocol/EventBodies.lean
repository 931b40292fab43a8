import DebugAdapter.Json.Reader
import DebugAdapter.Protocol.Parts

/-! # Bodies of events -/

namespace DebugAdapter.Protocol

open Json

/-- The stream that a piece of output belongs to. -/
inductive OutputCategory where
  | console
  | important
  | stdout
  | stderr
  | telemetry
  deriving DecidableEq, Repr

namespace OutputCategory

def name : OutputCategory → String
  | .console => "console"
  | .important => "important"
  | .stdout => "stdout"
  | .stderr => "stderr"
  | .telemetry => "telemetry"

def all : List OutputCategory := [.console, .important, .stdout, .stderr, .telemetry]

def ofName? (name : String) : Option OutputCategory := all.find? (·.name == name)

theorem ofName?_name (c : OutputCategory) : ofName? c.name = some c := by
  cases c <;> decide

def toValue (c : OutputCategory) : Value := .string c.name

/-- A category is its name, or an object whose only key is the name, with the value `null`. -/
def ofValue? : Value → Option OutputCategory
  | .string name => ofName? name
  | .object [] => none
  | .object ((name, v) :: rest) =>
    if rest.all (·.1 == name) && Value.lookup? name ((name, v) :: rest) == some .null then
      ofName? name
    else none
  | _ => none

/-- The category that some bytes are. A value of another kind is malformed here, and only an
unknown name is a mismatch. -/
def ofBytes (bytes : Bytes) : Except Json.Error OutputCategory :=
  let named := fun name => match ofName? name with
    | some c => Except.ok c
    | none => .error .mismatched
  Reader.complete <|
    match Reader.space bytes with
    | [] => .error .truncated
    | b :: rest =>
      if b = 0x22 then do
        let (name, rest) ← Reader.string rest
        .ok (← named name, rest)
      else if b = 0x7B then do
        let (name, rest) ← Reader.key Reader.string (Reader.space rest)
        let c ← named name
        let rest ← Reader.null (← Reader.colon rest)
        match Reader.space rest with
        | [] => .error .truncated
        | b :: rest => if b = 0x7D then .ok (c, rest) else .error .malformed
      else .error .malformed

end OutputCategory

structure OutputBody where
  category : Option OutputCategory := none
  output : String
  deriving DecidableEq

instance : Record OutputBody where
  names := ["category", "output"]
  fields a := [a.category.map OutputCategory.toValue, some (.string a.output)]
  ofFields?
    | [category, output] => do
      return ⟨← Value.optional OutputCategory.ofValue? category,
        ← Value.required Value.string? output⟩
    | _ => none

/-- A thread stopped. -/
structure StoppedBody where
  reason : String
  description : Option String := none
  threadId : Option Int64 := none
  allThreadsStopped : Option Bool := none
  deriving DecidableEq

instance : Record StoppedBody where
  names := ["reason", "description", "threadId", "allThreadsStopped"]
  fields a := [some (.string a.reason), a.description.map Value.string,
    a.threadId.map Value.int64, a.allThreadsStopped.map Value.bool]
  ofFields?
    | [reason, description, threadId, allThreadsStopped] => do
      return ⟨← Value.required Value.string? reason, ← Value.optional Value.string? description,
        ← Value.optional Value.int64? threadId, ← Value.optional Value.bool? allThreadsStopped⟩
    | _ => none

/-- A thread went on. -/
structure ContinuedBody where
  threadId : Int64
  allThreadsContinued : Option Bool := none
  deriving DecidableEq

instance : Record ContinuedBody where
  names := ["threadId", "allThreadsContinued"]
  fields a := [some (.int64 a.threadId), a.allThreadsContinued.map Value.bool]
  ofFields?
    | [threadId, allThreadsContinued] => do
      return ⟨← Value.required Value.int64? threadId,
        ← Value.optional Value.bool? allThreadsContinued⟩
    | _ => none

structure ExitedBody where
  exitCode : Int64
  deriving DecidableEq

instance : Record ExitedBody where
  names := ["exitCode"]
  fields a := [some (.int64 a.exitCode)]
  ofFields?
    | [exitCode] => do
      return ⟨← Value.required Value.int64? exitCode⟩
    | _ => none

structure TerminatedBody where
  restart : Option FreeForm := none
  deriving DecidableEq

instance : Record TerminatedBody where
  names := ["restart"]
  fields a := [a.restart.map (·.value)]
  ofFields?
    | [restart] => some ⟨restart.map .ofValue⟩
    | _ => none

/-- A thread started or exited. -/
structure ThreadBody where
  reason : String
  threadId : Int64
  deriving DecidableEq

instance : Record ThreadBody where
  names := ["reason", "threadId"]
  fields a := [some (.string a.reason), some (.int64 a.threadId)]
  ofFields?
    | [reason, threadId] => do
      return ⟨← Value.required Value.string? reason, ← Value.required Value.int64? threadId⟩
    | _ => none

end DebugAdapter.Protocol
