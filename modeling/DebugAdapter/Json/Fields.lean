import DebugAdapter.Json.Reader

/-! # Fields of a record, read from bytes

Some fields of a record are known by name and type and read while the bytes are scanned;
everything else is skipped. A known field that occurs twice is an error. The record may also be
written as an array of its fields in order, whose last fields may be left out if they are
optional. -/

namespace DebugAdapter.Json

inductive FieldType where
  | text
  | integer
  | flag
  | optionalText
  | optionalValue
  deriving DecidableEq, Repr

structure Field where
  name : String
  type : FieldType
  deriving DecidableEq, Repr

/-- What was read for a field. -/
inductive Held where
  | text (s : String)
  | integer (n : Int64)
  | flag (b : Bool)
  | optionalText (s : Option String)
  | optionalValue (v : Option Value)

def FieldType.isOptional : FieldType → Bool
  | .optionalText | .optionalValue => true
  | .text | .integer | .flag => false

/-- The value of a field. The record itself counts as one nested container. -/
def FieldType.read (bound : Nat) : FieldType → Bytes → Except Error (Held × Bytes)
  | .text, bytes => do
    let (s, rest) ← Reader.text bytes
    .ok (.text s, rest)
  | .integer, bytes => do
    let (n, rest) ← Reader.integer bytes
    .ok (.integer n, rest)
  | .flag, bytes => do
    let (b, rest) ← Reader.flag bytes
    .ok (.flag b, rest)
  | .optionalText, bytes => do
    let (s, rest) ← Reader.optional Reader.text bytes
    .ok (.optionalText s, rest)
  | .optionalValue, bytes => do
    let (v, rest) ← Reader.optional (Reader.value bound (Reader.nestingLimit - 1)) bytes
    .ok (.optionalValue v, rest)

/-- The fields that were read, by name. -/
abbrev Fields := List (String × Held)

namespace Fields

/-! ## Reading -/

/-- One member of an object, added to the fields read before it. -/
def member (bound : Nat) (known : List Field) (read : Fields) (bytes : Bytes) :
    Except Error (Fields × Bytes) := do
  let (name, rest) ← Reader.key Reader.string bytes
  match known.find? (·.name == name) with
  | none => do
    let rest ← Reader.skip bound (← Reader.colon rest)
    .ok (read, rest)
  | some field =>
    if (read.lookup name).isSome then .error .mismatched
    else do
      let (held, rest) ← field.type.read bound (← Reader.colon rest)
      .ok ((name, held) :: read, rest)

/-- The elements of an array, one for each field. -/
def inOrder (bound : Nat) : (first : Bool) → List Field → Bytes → Except Error (Fields × Bytes)
  | _, [], bytes =>
    match Reader.space bytes with
    | [] => .error .truncated
    | b :: rest => if b = 0x5D then .ok ([], rest) else .error .malformed
  | first, field :: fields, bytes => do
    match Reader.space bytes with
    | [] => .error .truncated
    | b :: rest =>
      if b = 0x5D then
        if field.type.isOptional && fields.all (·.type.isOptional) then .ok ([], rest)
        else .error .mismatched
      else do
        let element ←
          if first then .ok (b :: rest)
          else if b = 0x2C then
            match Reader.space rest with
            | [] => .error .truncated
            | c :: rest => if c = 0x5D then .error .malformed else .ok (c :: rest)
          else .error .malformed
        let (held, rest) ← field.type.read bound element
        let (read, rest) ← inOrder bound false fields rest
        .ok ((field.name, held) :: read, rest)

/-- Every field that may not be left out was read. -/
def isComplete (known : List Field) (read : Fields) : Bool :=
  known.all fun field => field.type.isOptional || (read.lookup field.name).isSome

/-- The known fields of the record that some bytes are. -/
def ofBytes (known : List Field) (bytes : Bytes) : Except Error Fields :=
  let bound := bytes.length + 1
  Reader.complete <|
    match Reader.space bytes with
    | [] => .error .truncated
    | b :: rest =>
      if b = 0x7B then do
        let (read, rest) ← Reader.container 0x7D (member bound known) bound [] rest
        if isComplete known read then .ok (read, rest) else .error .mismatched
      else if b = 0x5B then inOrder bound true known rest
      else .error (Reader.mismatch (b :: rest))

/-! ## Access -/

def text (read : Fields) (name : String) : Except Error String :=
  match read.lookup name with
  | some (.text s) => .ok s
  | _ => .error .mismatched

def integer (read : Fields) (name : String) : Except Error Int64 :=
  match read.lookup name with
  | some (.integer n) => .ok n
  | _ => .error .mismatched

def flag (read : Fields) (name : String) : Except Error Bool :=
  match read.lookup name with
  | some (.flag b) => .ok b
  | _ => .error .mismatched

/-- An optional text, absent if the field was left out. -/
def text? (read : Fields) (name : String) : Option String :=
  match read.lookup name with
  | some (.optionalText s) => s
  | _ => none

/-- An optional value, absent if the field was left out. -/
def value? (read : Fields) (name : String) : Option Value :=
  match read.lookup name with
  | some (.optionalValue v) => v
  | _ => none

end Fields

end DebugAdapter.Json
