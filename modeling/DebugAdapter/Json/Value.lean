import DebugAdapter.Number.Binary64
import DebugAdapter.Order.Ascending

/-! # JSON values

A value is a document as it is written: members in their order, a key as often as it occurs.
Free-form data is kept in a canonical form in which equal data are equal values: every object
has its keys in ascending order, each once, the last occurrence of a key being the one kept. -/

namespace DebugAdapter.Json

/-- The integers that a document carries exactly: those of 64 bits, signed or unsigned. -/
structure Integer where
  val : Int
  lower : -2 ^ 63 ≤ val
  upper : val < 2 ^ 64
  deriving DecidableEq

def Integer.ofInt64 (n : Int64) : Integer :=
  ⟨n.toInt, Int64.le_toInt n, Int.lt_trans (Int64.toInt_lt n) (by decide)⟩

inductive Number where
  | integer (n : Integer)
  | double (x : Binary64)
  deriving DecidableEq

inductive Value where
  | null
  | bool (b : Bool)
  | number (n : Number)
  | string (text : String)
  | array (items : List Value)
  | object (members : List (String × Value))

namespace Value

/-! ## Equality -/

mutual

def beq : Value → Value → Bool
  | .null, .null => true
  | .bool a, .bool b => a == b
  | .number a, .number b => decide (a = b)
  | .string a, .string b => decide (a = b)
  | .array a, .array b => beqItems a b
  | .object a, .object b => beqMembers a b
  | _, _ => false
termination_by structural v => v

def beqItems : List Value → List Value → Bool
  | [], [] => true
  | v :: vs, w :: ws => beq v w && beqItems vs ws
  | _, _ => false
termination_by structural vs => vs

def beqMembers : List (String × Value) → List (String × Value) → Bool
  | [], [] => true
  | (k, v) :: vs, (l, w) :: ws => decide (k = l) && beq v w && beqMembers vs ws
  | _, _ => false
termination_by structural ms => ms

end

mutual

theorem beq_iff (v w : Value) : beq v w = true ↔ v = w := by
  cases v with
  | null | bool | number | string => cases w <;> simp [beq]
  | array items =>
    cases w with
    | array ws => simpa [beq] using beqItems_iff items ws
    | null | bool | number | string | object => simp [beq]
  | object members =>
    cases w with
    | object ws => simpa [beq] using beqMembers_iff members ws
    | null | bool | number | string | array => simp [beq]
termination_by structural v

theorem beqItems_iff (vs ws : List Value) : beqItems vs ws = true ↔ vs = ws := by
  cases vs with
  | nil => cases ws <;> simp [beqItems]
  | cons v vs =>
    cases ws with
    | nil => simp [beqItems]
    | cons w ws => simp [beqItems, beq_iff v w, beqItems_iff vs ws]
termination_by structural vs

theorem beqMembers_iff (vs ws : List (String × Value)) : beqMembers vs ws = true ↔ vs = ws := by
  cases vs with
  | nil => cases ws <;> simp [beqMembers]
  | cons v vs =>
    cases ws with
    | nil => simp [beqMembers]
    | cons w ws =>
      simp [beqMembers, Prod.ext_iff, beq_iff v.2 w.2, beqMembers_iff vs ws, and_assoc]
termination_by structural vs

end

instance : DecidableEq Value := fun v w => decidable_of_iff _ (beq_iff v w)

/-! ## Numbers -/

/-- The value of an integer of 64 bits. -/
def int64 (n : Int64) : Value := .number (.integer (.ofInt64 n))

/-! ## Members of an object -/

/-- The value of a key. Of several members with one key the last counts. -/
def lookup? (key : String) (members : List (String × Value)) : Option Value :=
  (members.reverse.find? (·.1 == key)).map (·.2)

/-! ## Canonical form -/

mutual

/-- Whether every object inside a value has its keys in ascending order, each once. -/
def isCanonical : Value → Bool
  | .null => true
  | .bool _ => true
  | .number _ => true
  | .string _ => true
  | .array items => areCanonical items
  | .object members => Ascending.isAscending members && haveCanonical members
termination_by structural v => v

def areCanonical : List Value → Bool
  | [] => true
  | v :: rest => v.isCanonical && areCanonical rest
termination_by structural vs => vs

def haveCanonical : List (String × Value) → Bool
  | [] => true
  | (_, v) :: rest => v.isCanonical && haveCanonical rest
termination_by structural ms => ms

end

mutual

/-- The canonical form of a value. -/
def canonical : Value → Value
  | .null => .null
  | .bool b => .bool b
  | .number n => .number n
  | .string text => .string text
  | .array items => .array (canonicalItems items)
  | .object members => .object (canonicalMembers [] members)
termination_by structural v => v

def canonicalItems : List Value → List Value
  | [] => []
  | v :: rest => v.canonical :: canonicalItems rest
termination_by structural vs => vs

/-- Members put one after the other into canonical members. -/
def canonicalMembers (into : List (String × Value)) :
    List (String × Value) → List (String × Value)
  | [] => into
  | (k, v) :: rest => canonicalMembers (Ascending.insert k v.canonical into) rest
termination_by structural ms => ms

end

theorem string_total (s t : String) : s < t ∨ s = t ∨ t < s := by
  by_cases h : s < t
  · exact .inl h
  · by_cases h' : t < s
    · exact .inr (.inr h')
    · exact .inr (.inl (String.le_antisymm (String.not_lt.1 h') (String.not_lt.1 h)))

theorem haveCanonical_insert {key : String} {v : Value} {members : List (String × Value)}
    (hv : v.isCanonical = true) (h : haveCanonical members = true) :
    haveCanonical (Ascending.insert key v members) = true := by
  fun_induction Ascending.insert key v members <;> simp_all [haveCanonical]

mutual

theorem isCanonical_canonical (v : Value) : v.canonical.isCanonical = true := by
  cases v with
  | null | bool | number | string => rfl
  | array items => exact areCanonical_canonicalItems items
  | object members => exact isCanonical_canonicalMembers members [] rfl rfl
termination_by structural v

theorem areCanonical_canonicalItems (items : List Value) :
    areCanonical (canonicalItems items) = true := by
  cases items with
  | nil => rfl
  | cons v rest =>
    simp [canonicalItems, areCanonical, isCanonical_canonical v, areCanonical_canonicalItems rest]
termination_by structural items

theorem isCanonical_canonicalMembers (members into : List (String × Value))
    (ha : Ascending.isAscending into = true) (hc : haveCanonical into = true) :
    (Value.object (canonicalMembers into members)).isCanonical = true := by
  cases members with
  | nil => simp [canonicalMembers, isCanonical, ha, hc]
  | cons m rest =>
    exact isCanonical_canonicalMembers rest _ (Ascending.isAscending_insert string_total ha)
      (haveCanonical_insert (isCanonical_canonical m.2) hc)
termination_by structural members

end

end Value

/-! ## Free-form data -/

/-- A value in canonical form. -/
structure FreeForm where
  value : Value
  canonical : value.isCanonical = true
  deriving DecidableEq

/-- The members of an object in canonical form. -/
structure FreeMembers where
  members : List (String × Value)
  canonical : (Value.object members).isCanonical = true
  deriving DecidableEq

/-- No members at all. -/
def FreeMembers.empty : FreeMembers := ⟨[], rfl⟩

def FreeForm.ofValue (v : Value) : FreeForm := ⟨v.canonical, v.isCanonical_canonical⟩

def FreeMembers.ofMembers (members : List (String × Value)) : FreeMembers :=
  ⟨Value.canonicalMembers [] members, Value.isCanonical_canonicalMembers members [] rfl rfl⟩

end DebugAdapter.Json
