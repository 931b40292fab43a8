import DebugAdapter.Json.Numeral

/-! # Reading JSON

Readers take bytes and give what they read and the bytes after it. The first error in reading
order is the one reported. Values that are kept are read in full, to a limit of nested
containers; values that nobody asked for are only skipped, which checks their structure. -/

namespace DebugAdapter.Json.Reader

/-- The bytes after any white space. -/
def space (bytes : Bytes) : Bytes :=
  bytes.dropWhile fun b => b == 0x20 || b == 0x09 || b == 0x0A || b == 0x0D

/-! ## Words -/

/-- The rest of a word such as `null`, whose first letter chose it. -/
def word : Bytes → Bytes → Except Error Bytes
  | [], bytes => .ok bytes
  | _ :: _, [] => .error .truncated
  | w :: rest, b :: bytes => if w = b then word rest bytes else .error .malformed

/-! ## Strings -/

/-- The value of a digit in base sixteen. -/
def hexValue? (b : UInt8) : Option Nat :=
  if 0x30 ≤ b ∧ b ≤ 0x39 then some (b.toNat - 0x30)
  else if 0x61 ≤ b ∧ b ≤ 0x66 then some (b.toNat - 0x57)
  else if 0x41 ≤ b ∧ b ≤ 0x46 then some (b.toNat - 0x37)
  else none

/-- The UTF-16 unit that the four digits after `\u` name. -/
def unit : Bytes → Except Error Nat
  | a :: b :: c :: d :: _ =>
    match hexValue? a, hexValue? b, hexValue? c, hexValue? d with
    | some a, some b, some c, some d => .ok (((a * 16 + b) * 16 + c) * 16 + d)
    | _, _, _, _ => .error .malformed
  | _ => .error .truncated

/-- The second half of a pair of units, written as another escape. -/
def lowUnit : Bytes → Except Error Nat
  | [] => .error .truncated
  | b :: rest =>
    if b ≠ 0x5C then .error .malformed
    else match rest with
      | [] => .error .truncated
      | b :: rest =>
        if b ≠ 0x75 then .error .malformed
        else do
          let low ← unit rest
          if 0xDC00 ≤ low ∧ low ≤ 0xDFFF then .ok low else .error .malformed

/-- The letter of an escape that stands for one character. -/
def plainEscape? (b : UInt8) : Option UInt8 :=
  if b = 0x22 ∨ b = 0x5C ∨ b = 0x2F then some b
  else if b = 0x62 then some 0x08
  else if b = 0x66 then some 0x0C
  else if b = 0x6E then some 0x0A
  else if b = 0x72 then some 0x0D
  else if b = 0x74 then some 0x09
  else none

/-- What the bytes after a backslash stand for, and how many of them belong to the escape.
Half a pair of UTF-16 units stands for nothing. -/
def keptEscape : Bytes → Except Error (Bytes × Nat)
  | [] => .error .truncated
  | b :: rest =>
    match plainEscape? b with
    | some c => .ok ([c], 1)
    | none =>
      if b ≠ 0x75 then .error .malformed
      else do
        let high ← unit rest
        if 0xDC00 ≤ high ∧ high ≤ 0xDFFF then .error .malformed
        else if 0xD800 ≤ high ∧ high ≤ 0xDBFF then do
          let low ← lowUnit (rest.drop 4)
          let code := (high - 0xD800) * 0x400 + (low - 0xDC00) + 0x10000
          .ok (String.utf8EncodeChar (Char.ofNat code), 11)
        else .ok (String.utf8EncodeChar (Char.ofNat high), 5)

/-- How many bytes after a backslash belong to an escape, whatever it stands for. -/
def skippedEscape : Bytes → Except Error (Bytes × Nat)
  | [] => .error .truncated
  | b :: rest =>
    match plainEscape? b with
    | some _ => .ok ([], 1)
    | none =>
      if b ≠ 0x75 then .error .malformed
      else do
        let _ ← unit rest
        .ok ([], 5)

/-- The contents of a string and the bytes after its closing quote. The first argument counts
the bytes that belong to an escape already read. -/
def contents (escape : Bytes → Except Error (Bytes × Nat)) :
    Nat → Bytes → Except Error (Bytes × Bytes)
  | _, [] => .error .truncated
  | skip + 1, _ :: rest => contents escape skip rest
  | 0, b :: rest =>
    if b = 0x22 then .ok ([], rest)
    else if b = 0x5C then do
      let (head, used) ← escape rest
      let (tail, rest) ← contents escape used rest
      .ok (head ++ tail, rest)
    else if b < 0x20 then .error .malformed
    else do
      let (tail, rest) ← contents escape 0 rest
      .ok (b :: tail, rest)

/-- A string that is kept, after its opening quote. -/
def string (bytes : Bytes) : Except Error (String × Bytes) := do
  let (inside, rest) ← contents keptEscape 0 bytes
  match Utf8.decode? inside with
  | some text => .ok (text, rest)
  | none => .error .malformed

/-- A string that is skipped, after its opening quote. -/
def skipString (bytes : Bytes) : Except Error Bytes := do
  let (_, rest) ← contents skippedEscape 0 bytes
  .ok rest

/-! ## Containers -/

/-- Elements separated by commas, up to a closing byte. Each element is read by `item`, which
also sees what was read so far. The first argument bounds the number of elements. -/
def elements {σ : Type} (close : UInt8) (item : σ → Bytes → Except Error (σ × Bytes)) :
    Nat → σ → Bytes → Except Error (σ × Bytes)
  | 0, _, _ => .error .truncated
  | bound + 1, s, bytes => do
    let (s, rest) ← item s (space bytes)
    match space rest with
    | [] => .error .truncated
    | b :: rest =>
      if b = 0x2C then elements close item bound s rest
      else if b = close then .ok (s, rest)
      else .error .malformed

/-- The inside of a container after its opening byte: nothing, or elements. -/
def container {σ : Type} (close : UInt8) (item : σ → Bytes → Except Error (σ × Bytes))
    (bound : Nat) (s : σ) (bytes : Bytes) : Except Error (σ × Bytes) :=
  match space bytes with
  | [] => .error .truncated
  | b :: rest => if b = close then .ok (s, rest) else elements close item bound s bytes

/-- The colon of a member. -/
def colon (bytes : Bytes) : Except Error Bytes :=
  match space bytes with
  | [] => .error .truncated
  | b :: rest => if b = 0x3A then .ok rest else .error .malformed

/-- The key of a member and its opening quote, read by `key` from the byte after it. -/
def key {α : Type} (read : Bytes → Except Error α) (bytes : Bytes) : Except Error α :=
  match bytes with
  | [] => .error .truncated
  | b :: rest => if b = 0x22 then read rest else .error .malformed

/-! ## Values -/

/-- A value without inner values, if the first byte announces one. -/
def scalar (bytes : Bytes) : Except Error (Value × Bytes) :=
  match bytes with
  | [] => .error .truncated
  | b :: rest =>
    if b = 0x6E then do .ok (.null, ← word [0x75, 0x6C, 0x6C] rest)
    else if b = 0x74 then do .ok (.bool true, ← word [0x72, 0x75, 0x65] rest)
    else if b = 0x66 then do .ok (.bool false, ← word [0x61, 0x6C, 0x73, 0x65] rest)
    else if b = 0x22 then do
      let (text, rest) ← string rest
      .ok (.string text, rest)
    else if b = 0x2D ∨ Decimal.isDigit b then do
      let (numeral, rest) ← Numeral.scan .truncated bytes
      .ok (.number (← numeral.toNumber), rest)
    else .error .malformed

/-- A value that is kept. At most `limit` containers may be nested, each with at most `bound`
elements. -/
def value (bound : Nat) : (limit : Nat) → Bytes → Except Error (Value × Bytes)
  | 0, bytes =>
    match space bytes with
    | [] => .error .truncated
    | b :: rest => if b = 0x5B ∨ b = 0x7B then .error .malformed else scalar (b :: rest)
  | limit + 1, bytes =>
    match space bytes with
    | [] => .error .truncated
    | b :: rest =>
      if b = 0x5B then do
        let (items, rest) ← container 0x5D (fun items bytes => do
          let (v, rest) ← value bound limit bytes
          .ok (v :: items, rest)) bound [] rest
        .ok (.array items.reverse, rest)
      else if b = 0x7B then do
        let (members, rest) ← container 0x7D (fun members bytes => do
          let (k, rest) ← key string bytes
          let (v, rest) ← value bound limit (← colon rest)
          .ok ((k, v) :: members, rest)) bound [] rest
        .ok (.object members.reverse, rest)
      else scalar (b :: rest)

/-- The bytes after a value that is skipped. The argument bounds the nesting and the number of
elements. -/
def skip : (bound : Nat) → Bytes → Except Error Bytes
  | 0, _ => .error .truncated
  | bound + 1, bytes =>
    match space bytes with
    | [] => .error .truncated
    | b :: rest =>
      if b = 0x6E then word [0x75, 0x6C, 0x6C] rest
      else if b = 0x74 then word [0x72, 0x75, 0x65] rest
      else if b = 0x66 then word [0x61, 0x6C, 0x73, 0x65] rest
      else if b = 0x22 then skipString rest
      else if b = 0x2D ∨ Decimal.isDigit b then do
        let (_, rest) ← Numeral.scan .malformed (b :: rest)
        .ok rest
      else if b = 0x5B then do
        let (_, rest) ← container 0x5D (fun (_ : Unit) bytes => do
          .ok ((), ← skip bound bytes)) bound () rest
        .ok rest
      else if b = 0x7B then do
        let (_, rest) ← container 0x7D (fun (_ : Unit) bytes => do
          let rest ← key skipString bytes
          .ok ((), ← skip bound (← colon rest))) bound () rest
        .ok rest
      else .error .malformed

/-! ## Values of a known type -/

/-- The error for a value of another type than the one asked for. A word, a number or a string
is read first and may be malformed itself. -/
def mismatch (bytes : Bytes) : Error :=
  match bytes with
  | [] => .truncated
  | b :: _ =>
    if b = 0x5B ∨ b = 0x7B then .mismatched
    else match scalar bytes with
      | .ok _ => .mismatched
      | .error e => e

def text (bytes : Bytes) : Except Error (String × Bytes) :=
  match space bytes with
  | 0x22 :: rest => string rest
  | bytes => .error (mismatch bytes)

def integer (bytes : Bytes) : Except Error (Int64 × Bytes) :=
  match scalar (space bytes) with
  | .ok (.number (.integer n), rest) =>
    if n.val < 2 ^ 63 then .ok (Int64.ofInt n.val, rest) else .error .mismatched
  | _ => .error (mismatch (space bytes))

def flag (bytes : Bytes) : Except Error (Bool × Bytes) :=
  match scalar (space bytes) with
  | .ok (.bool b, rest) => .ok (b, rest)
  | _ => .error (mismatch (space bytes))

def null (bytes : Bytes) : Except Error Bytes :=
  match space bytes with
  | 0x6E :: rest => word [0x75, 0x6C, 0x6C] rest
  | bytes => .error (mismatch bytes)

/-- A value, or nothing for `null`. -/
def optional {α : Type} (read : Bytes → Except Error (α × Bytes)) (bytes : Bytes) :
    Except Error (Option α × Bytes) :=
  match space bytes with
  | 0x6E :: rest => do .ok (none, ← word [0x75, 0x6C, 0x6C] rest)
  | bytes => do
    let (a, rest) ← read bytes
    .ok (some a, rest)

/-! ## Documents -/

/-- At most so many containers are nested in a document that is kept. -/
def nestingLimit : Nat := 127

/-- The result of a reader that has to reach the end of the bytes. -/
def complete {α : Type} (result : Except Error (α × Bytes)) : Except Error α := do
  let (a, rest) ← result
  match space rest with
  | [] => .ok a
  | _ => .error .malformed

/-- The document that some bytes are. -/
def document (bytes : Bytes) : Except Error Value :=
  complete (value (bytes.length + 1) nestingLimit bytes)

end DebugAdapter.Json.Reader
