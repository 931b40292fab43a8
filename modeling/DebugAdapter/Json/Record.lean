import DebugAdapter.Json.Value

/-! # Records as JSON

A record with named fields has two written forms: an object, in which the order of the members
does not matter and unknown members are ignored, and an array of all its fields in order. It is
printed as an object that leaves absent fields out. -/

namespace DebugAdapter.Json

/-- A type with named fields. A field that is absent has no value. -/
class Record (α : Type) where
  names : List String
  fields : α → List (Option Value)
  ofFields? : List (Option Value) → Option α

namespace Record

variable {α : Type} [Record α]

/-- The members for the fields that are present. -/
def members (names : List String) (fields : List (Option Value)) : List (String × Value) :=
  (names.zip fields).filterMap fun (name, field) => field.map (name, ·)

def toValue (a : α) : Value := .object (members (names α) (fields a))

/-- A value, unless it is `null`, which stands for an absent field. -/
def present : Value → Option Value
  | .null => none
  | v => some v

def ofValue? : Value → Option α
  | .object members => ofFields? ((names α).map fun name => (Value.lookup? name members).bind present)
  | .array items =>
    if items.length = (names α).length then ofFields? (items.map present) else none
  | _ => none

end Record

namespace Value

/-! ## Values of a known type -/

def string? : Value → Option String
  | .string text => some text
  | _ => none

def bool? : Value → Option Bool
  | .bool b => some b
  | _ => none

def int64? : Value → Option Int64
  | .number (.integer n) => if n.val < 2 ^ 63 then some (Int64.ofInt n.val) else none
  | _ => none

def list? {α : Type} (read : Value → Option α) : Value → Option (List α)
  | .array items => items.mapM read
  | _ => none

/-- A field that has to be present. -/
def required {α : Type} (read : Value → Option α) (field : Option Value) : Option α :=
  field.bind read

/-- A field that may be absent. -/
def optional {α : Type} (read : Value → Option α) : Option Value → Option (Option α)
  | none => some none
  | some v => (read v).map some

def listOf {α : Type} (write : α → Value) (items : List α) : Value := .array (items.map write)

end Value

end DebugAdapter.Json
