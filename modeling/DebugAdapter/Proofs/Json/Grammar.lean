import DebugAdapter.Proofs.Json.ReadBack

/-! # The grammar of JSON

Which bytes are a value, without regard to any reader: blanks, strings, numbers, and containers
with blanks around their elements. The grammar of strings leaves open what the bytes and the
escapes stand for; which text a string spells is a second question, and half a pair of UTF-16
units is grammatical and spells nothing. -/

namespace DebugAdapter.Json

open Reader (hexValue? plainEscape? isPlain unit opensValue space)

namespace Grammar

/-! ## Blanks -/

def isBlank (b : UInt8) : Bool := b == 0x20 || b == 0x09 || b == 0x0A || b == 0x0D

def IsBlank (bytes : Bytes) : Prop := ∀ b ∈ bytes, isBlank b = true

theorem isBlank_nil : IsBlank [] := fun _ h => absurd h List.not_mem_nil

theorem space_eq_dropWhile (bytes : Bytes) : space bytes = bytes.dropWhile isBlank := rfl

theorem space_blank {blank : Bytes} (h : IsBlank blank) (rest : Bytes) :
    space (blank ++ rest) = space rest :=
  List.dropWhile_append_of_pos h

/-- Something written between blanks. -/
structure Padded (α : Type) where
  before : Bytes
  inner : α
  after : Bytes

namespace Padded

variable {α : Type}

def bytes (text : α → Bytes) (p : Padded α) : Bytes := p.before ++ (text p.inner ++ p.after)

structure IsBlank (p : Padded α) : Prop where
  before : Grammar.IsBlank p.before
  after : Grammar.IsBlank p.after

theorem length_inner_le (text : α → Bytes) (p : Padded α) :
    (text p.inner).length ≤ (p.bytes text).length := by
  simp only [bytes, List.length_append]
  omega

end Padded

/-! ## Strings -/

/-- Four digits of an escape `\u`. -/
def IsUnit (digits : Bytes) : Prop :=
  digits.length = 4 ∧ ∀ b ∈ digits, (hexValue? b).isSome = true

/-- The bytes between the quotes of a string. -/
inductive IsContents : Bytes → Prop
  | nil : IsContents []
  | plain {b : UInt8} {rest : Bytes} (hb : isPlain b = true) (h : IsContents rest) :
      IsContents (b :: rest)
  | letter {b : UInt8} {rest : Bytes} (hb : (plainEscape? b).isSome = true)
      (h : IsContents rest) : IsContents (0x5C :: b :: rest)
  | unit {digits rest : Bytes} (hd : IsUnit digits) (h : IsContents rest) :
      IsContents (0x5C :: 0x75 :: (digits ++ rest))

theorem isContents_of_plain {bytes : Bytes} (h : ∀ b ∈ bytes, isPlain b = true) :
    IsContents bytes := by
  induction bytes with
  | nil => exact .nil
  | cons b bytes ih =>
    exact .plain (h b List.mem_cons_self) (ih fun b hb => h b (List.mem_cons_of_mem _ hb))

def isHigh (code : Nat) : Prop := 0xD800 ≤ code ∧ code ≤ 0xDBFF

def isLow (code : Nat) : Prop := 0xDC00 ≤ code ∧ code ≤ 0xDFFF

/-- The character of a pair of UTF-16 units. -/
def pairChar (high low : Nat) : Char :=
  Char.ofNat ((high - 0xD800) * 0x400 + (low - 0xDC00) + 0x10000)

/-- The text that the bytes between the quotes of a string stand for: characters as they are,
escapes of one letter, and escapes of a UTF-16 unit or of a pair of them. -/
inductive Spells : Bytes → List Char → Prop
  | nil : Spells [] []
  | plain {c : Char} {rest : Bytes} {cs : List Char} (hc : 0x20 ≤ c.toNat)
      (hq : c.toNat ≠ 0x22) (hb : c.toNat ≠ 0x5C) (h : Spells rest cs) :
      Spells (String.utf8EncodeChar c ++ rest) (c :: cs)
  | letter {b c : UInt8} {rest : Bytes} {cs : List Char} (hb : plainEscape? b = some c)
      (h : Spells rest cs) : Spells (0x5C :: b :: rest) (Char.ofNat c.toNat :: cs)
  | unit {digits rest : Bytes} {code : Nat} {cs : List Char} (hd : digits.length = 4)
      (hu : Reader.unit digits = .ok code) (hh : ¬ isHigh code) (hl : ¬ isLow code)
      (h : Spells rest cs) :
      Spells (0x5C :: 0x75 :: (digits ++ rest)) (Char.ofNat code :: cs)
  | pair {first second rest : Bytes} {high low : Nat} {cs : List Char}
      (hf : first.length = 4) (hs : second.length = 4) (hfu : Reader.unit first = .ok high)
      (hsu : Reader.unit second = .ok low) (hh : isHigh high) (hl : isLow low)
      (h : Spells rest cs) :
      Spells (0x5C :: 0x75 :: (first ++ 0x5C :: 0x75 :: (second ++ rest)))
        (pairChar high low :: cs)

/-! ## Numbers -/

def IsDigits (bytes : Bytes) : Prop := bytes ≠ [] ∧ ∀ b ∈ bytes, Decimal.isDigit b = true

/-- The digits before the point: a zero stands alone. -/
def IsWhole (bytes : Bytes) : Prop :=
  bytes = [0x30] ∨ IsDigits bytes ∧ bytes.head? ≠ some 0x30

def IsFraction (bytes : Bytes) : Prop :=
  bytes = [] ∨ ∃ digits, IsDigits digits ∧ bytes = 0x2E :: digits

def IsExponent (bytes : Bytes) : Prop :=
  bytes = [] ∨ ∃ mark sign digits, (mark = 0x65 ∨ mark = 0x45) ∧
    (sign = [] ∨ sign = [0x2B] ∨ sign = [0x2D]) ∧ IsDigits digits ∧
    bytes = mark :: (sign ++ digits)

def IsNumber (bytes : Bytes) : Prop :=
  ∃ sign whole fraction exponent, (sign = [] ∨ sign = [0x2D]) ∧ IsWhole whole ∧
    IsFraction fraction ∧ IsExponent exponent ∧
    bytes = sign ++ (whole ++ (fraction ++ exponent))

/-! ## Values -/

/-- A member of an object: the bytes between the quotes of its key, and its value, with the
blanks on both sides of the colon. -/
structure Member where
  key : Bytes
  beforeColon : Bytes
  afterColon : Bytes
  value : Bytes

namespace Member

def bytes (m : Member) : Bytes :=
  0x22 :: (m.key ++ 0x22 :: (m.beforeColon ++ 0x3A :: (m.afterColon ++ m.value)))

structure IsKeyed (m : Member) : Prop where
  key : IsContents m.key
  beforeColon : IsBlank m.beforeColon
  afterColon : IsBlank m.afterColon

theorem length_value_le (m : Member) : m.value.length ≤ m.bytes.length := by
  simp only [bytes, List.length_append, List.length_cons]
  omega

end Member

/-- The bytes of an array between blanks are those of its elements, those of an object the
bytes of its members. -/
inductive IsValue : Bytes → Prop
  | null : IsValue [0x6E, 0x75, 0x6C, 0x6C]
  | true : IsValue [0x74, 0x72, 0x75, 0x65]
  | false : IsValue [0x66, 0x61, 0x6C, 0x73, 0x65]
  | string {inside : Bytes} (h : IsContents inside) : IsValue (0x22 :: (inside ++ [0x22]))
  | number {bytes : Bytes} (h : IsNumber bytes) : IsValue bytes
  | emptyArray {blank : Bytes} (h : IsBlank blank) : IsValue (0x5B :: (blank ++ [0x5D]))
  | array {items : List (Padded Bytes)} (hb : ∀ p ∈ items, p.IsBlank)
      (h : ∀ p ∈ items, IsValue p.inner) :
      IsValue (0x5B :: (Printer.separated (Padded.bytes id) items ++ [0x5D]))
  | emptyObject {blank : Bytes} (h : IsBlank blank) : IsValue (0x7B :: (blank ++ [0x7D]))
  | object {members : List (Padded Member)} (hb : ∀ p ∈ members, p.IsBlank)
      (hk : ∀ p ∈ members, p.inner.IsKeyed) (h : ∀ p ∈ members, IsValue p.inner.value) :
      IsValue (0x7B :: (Printer.separated (Padded.bytes Member.bytes) members ++ [0x7D]))

structure Member.IsMember (m : Member) : Prop extends m.IsKeyed where
  value : IsValue m.value

end Grammar

end DebugAdapter.Json
