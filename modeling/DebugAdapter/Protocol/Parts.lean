import DebugAdapter.Json.Record

/-! # Parts of messages

The records that occur inside arguments and bodies. -/

namespace DebugAdapter.Protocol

open Json

/-- A thread of the debuggee. -/
structure Thread where
  id : Int64
  name : String
  deriving DecidableEq

instance : Record Thread where
  names := ["id", "name"]
  fields a := [some (.int64 a.id), some (.string a.name)]
  ofFields?
    | [id, name] => do
      return ⟨← Value.required Value.int64? id, ← Value.required Value.string? name⟩
    | _ => none

/-- Where the code of a frame comes from. -/
structure Source where
  name : Option String := none
  path : Option String := none
  deriving DecidableEq

instance : Record Source where
  names := ["name", "path"]
  fields a := [a.name.map Value.string, a.path.map Value.string]
  ofFields?
    | [name, path] => do
      return ⟨← Value.optional Value.string? name, ← Value.optional Value.string? path⟩
    | _ => none

/-- A frame of a stopped thread. -/
structure StackFrame where
  /-- The handle by which scopes are asked for. -/
  id : Int64
  name : String
  source : Option Source := none
  line : Int64
  column : Int64
  deriving DecidableEq

instance : Record StackFrame where
  names := ["id", "name", "source", "line", "column"]
  fields a := [some (.int64 a.id), some (.string a.name), a.source.map Record.toValue,
    some (.int64 a.line), some (.int64 a.column)]
  ofFields?
    | [id, name, source, line, column] => do
      return ⟨← Value.required Value.int64? id, ← Value.required Value.string? name,
        ← Value.optional Record.ofValue? source, ← Value.required Value.int64? line,
        ← Value.required Value.int64? column⟩
    | _ => none

/-- A group of variables of a frame. -/
structure Scope where
  name : String
  presentationHint : Option String := none
  /-- The handle by which the variables are asked for. -/
  variablesReference : Int64
  expensive : Bool
  deriving DecidableEq

instance : Record Scope where
  names := ["name", "presentationHint", "variablesReference", "expensive"]
  fields a := [some (.string a.name), a.presentationHint.map Value.string,
    some (.int64 a.variablesReference), some (.bool a.expensive)]
  ofFields?
    | [name, presentationHint, variablesReference, expensive] => do
      return ⟨← Value.required Value.string? name,
        ← Value.optional Value.string? presentationHint,
        ← Value.required Value.int64? variablesReference, ← Value.required Value.bool? expensive⟩
    | _ => none

/-- A variable with its value as text. -/
structure Variable where
  name : String
  value : String
  typeName : Option String := none
  /-- The handle of inner variables, zero if there are none. -/
  variablesReference : Int64
  deriving DecidableEq

instance : Record Variable where
  names := ["name", "value", "type", "variablesReference"]
  fields a := [some (.string a.name), some (.string a.value), a.typeName.map Value.string,
    some (.int64 a.variablesReference)]
  ofFields?
    | [name, value, typeName, variablesReference] => do
      return ⟨← Value.required Value.string? name, ← Value.required Value.string? value,
        ← Value.optional Value.string? typeName, ← Value.required Value.int64? variablesReference⟩
    | _ => none

/-- A structured account of a failed request. -/
structure ErrorMessage where
  id : Int64
  format : String
  showUser : Option Bool := none
  deriving DecidableEq

instance : Record ErrorMessage where
  names := ["id", "format", "showUser"]
  fields a := [some (.int64 a.id), some (.string a.format), a.showUser.map Value.bool]
  ofFields?
    | [id, format, showUser] => do
      return ⟨← Value.required Value.int64? id, ← Value.required Value.string? format,
        ← Value.optional Value.bool? showUser⟩
    | _ => none

end DebugAdapter.Protocol
