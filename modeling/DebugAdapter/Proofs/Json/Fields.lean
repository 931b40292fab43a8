import DebugAdapter.Json.Fields
import DebugAdapter.Proofs.Json.ReadBack
import DebugAdapter.Proofs.Json.Records

/-! # Fields of a printed object

Reading the fields of a record from a printed object is the same as collecting them from its
members: what is known is held, and what is not known leaves nothing. -/

namespace DebugAdapter.Json

/-! ## One field -/

/-- What a field of a type holds of a value. -/
def FieldType.hold? : FieldType → Value → Option Held
  | .text, v => v.string?.map .text
  | .integer, v => v.int64?.map .integer
  | .flag, v => v.bool?.map .flag
  | .optionalText, .null => some (.optionalText none)
  | .optionalText, v => v.string?.map fun text => .optionalText (some text)
  | .optionalValue, .null => some (.optionalValue none)
  | .optionalValue, v => some (.optionalValue (some v))

namespace Value

theorem eq_string_of_string? {v : Value} {text : String} (h : v.string? = some text) :
    v = .string text := by
  cases v with
  | string s => rw [Option.some.inj h]
  | null | bool | number | array | object => exact absurd h (by simp [string?])

theorem eq_bool_of_bool? {v : Value} {b : Bool} (h : v.bool? = some b) : v = .bool b := by
  cases v with
  | bool c => rw [Option.some.inj h]
  | null | number | string | array | object => exact absurd h (by simp [bool?])

end Value

namespace FieldType

@[simp] theorem hold?_text (s : String) : text.hold? (.string s) = some (.text s) := rfl

@[simp] theorem hold?_integer (n : Int64) : integer.hold? (.int64 n) = some (.integer n) := by
  rw [hold?, Value.int64?_int64, Option.map_some]

@[simp] theorem hold?_flag (b : Bool) : flag.hold? (.bool b) = some (.flag b) := rfl

@[simp] theorem hold?_optionalText (s : String) :
    optionalText.hold? (.string s) = some (.optionalText (some s)) := rfl

theorem hold?_optionalText_of_ne_null {v : Value} (h : v ≠ .null) :
    optionalText.hold? v = v.string?.map fun text => .optionalText (some text) := by
  cases v with
  | null => exact absurd rfl h
  | bool | number | string | array | object => rfl

theorem hold?_optionalValue {v : Value} (h : v ≠ .null) :
    optionalValue.hold? v = some (.optionalValue (some v)) := by
  cases v with
  | null => exact absurd rfl h
  | bool | number | string | array | object => rfl

end FieldType

namespace Reader

theorem text_print (s : String) (rest : Bytes) :
    text (Printer.value (.string s) ++ rest) = .ok (s, rest) := by
  change text (Printer.string s ++ rest) = _
  rw [string_append]
  exact string_print s rest

theorem integer_print {v : Value} {n : Int64} (hv : v.int64? = some n) {rest : Bytes}
    (h : endsValue rest = true) : integer (Printer.value v ++ rest) = .ok (n, rest) := by
  cases v with
  | number m =>
    cases m with
    | double x => exact absurd hv (by simp [Value.int64?])
    | integer m =>
      rw [Value.int64?] at hv
      rw [integer, space_value rfl, scalar_value rfl rfl h]
      split at hv
      · rename_i hlt
        obtain rfl := Option.some.inj hv
        exact if_pos hlt
      · exact absurd hv (by simp)
  | null | bool | string | array | object => exact absurd hv (by simp [Value.int64?])

theorem flag_print (b : Bool) {rest : Bytes} (h : endsValue rest = true) :
    flag (Printer.value (.bool b) ++ rest) = .ok (b, rest) := by
  rw [flag, space_value rfl, scalar_value rfl rfl h]

/-- Only `null` begins like the word. -/
theorem optional_print {α : Type} {read : Bytes → Except Error (α × Bytes)} {v : Value}
    (hv : v ≠ .null) (hi : v.isIntegral = true) {a : α} {rest : Bytes}
    (hread : read (Printer.value v ++ rest) = .ok (a, rest)) :
    optional read (Printer.value v ++ rest) = .ok (some a, rest) := by
  have hfirst : ∀ more, Printer.value v ++ rest ≠ 0x6E :: more := by
    intro more he
    cases v with
    | null => exact hv rfl
    | bool b => cases b <;> exact absurd (List.cons.inj he).1 (by decide)
    | number n =>
      cases n with
      | double x => exact absurd hi Bool.false_ne_true
      | integer n =>
        obtain ⟨b, digits, hn, hb⟩ := encodeInt_eq_cons n.val
        change Decimal.encodeInt n.val ++ rest = _ at he
        rw [hn] at he
        exact ne_of_beginsNumeral hb rfl (List.cons.inj he).1
    | string text => exact absurd (List.cons.inj he).1 (by decide)
    | array items =>
      rw [Printer.value_array] at he
      exact absurd (List.cons.inj he).1 (by decide)
    | object members =>
      rw [Printer.value_object] at he
      exact absurd (List.cons.inj he).1 (by decide)
  rw [optional, space_value hi]
  split
  · rename_i heq
    exact absurd heq (hfirst _)
  · rw [hread]
    rfl

end Reader

/-- A printed value is held by a field of its type. -/
theorem FieldType.read_print {type : FieldType} {v : Value} {held : Held}
    (hv : type.hold? v = some held) (hi : v.isIntegral = true)
    (hd : v.depth ≤ Reader.nestingLimit - 1) {bound : Nat}
    (hb : (Printer.value v).length ≤ bound + 1) {rest : Bytes} (h : endsValue rest = true) :
    type.read bound (Printer.value v ++ rest) = .ok (held, rest) := by
  cases type with
  | text =>
    obtain ⟨s, hs, rfl⟩ := Option.map_eq_some_iff.mp hv
    rw [Value.eq_string_of_string? hs, FieldType.read, Reader.text_print]
    rfl
  | integer =>
    obtain ⟨n, hn, rfl⟩ := Option.map_eq_some_iff.mp hv
    rw [FieldType.read, Reader.integer_print hn h]
    rfl
  | flag =>
    obtain ⟨b, hb, rfl⟩ := Option.map_eq_some_iff.mp hv
    rw [Value.eq_bool_of_bool? hb, FieldType.read, Reader.flag_print b h]
    rfl
  | optionalText =>
    by_cases hnull : v = .null
    · subst hnull
      obtain rfl := Option.some.inj hv
      rfl
    · rw [hold?_optionalText_of_ne_null hnull] at hv
      obtain ⟨s, hs, rfl⟩ := Option.map_eq_some_iff.mp hv
      obtain rfl := Value.eq_string_of_string? hs
      rw [FieldType.read, Reader.optional_print hnull hi (Reader.text_print s rest)]
      rfl
  | optionalValue =>
    by_cases hnull : v = .null
    · subst hnull
      obtain rfl := Option.some.inj hv
      rfl
    · have hheld : held = .optionalValue (some v) :=
        Option.some.inj (hv.symm.trans (hold?_optionalValue hnull))
      rw [FieldType.read, Reader.optional_print hnull hi (Reader.value_print hi hd hb h), hheld]
      rfl

namespace Fields

/-! ## All fields -/

/-- The fields read so far and one more member. -/
def addMember? (known : List Field) (read : Fields) (m : String × Value) : Option Fields :=
  match known.find? (·.name == m.1) with
  | none => some read
  | some field =>
    if (read.lookup m.1).isSome then none
    else (field.type.hold? m.2).map fun held => (m.1, held) :: read

/-- The fields of an object, by its members. -/
def ofMembers? (known : List Field) (members : List (String × Value)) : Option Fields :=
  members.foldlM (addMember? known) []

/-- The fields of a value, none of which may be missing. -/
def ofValue? (known : List Field) : Value → Option Fields
  | .object members => (ofMembers? known members).filter (isComplete known)
  | _ => none

theorem readsAs_member {bound : Nat} (known : List Field) {m : String × Value}
    (hi : m.2.isIntegral = true) (hd : m.2.depth ≤ Reader.nestingLimit - 1)
    (hb : (Printer.value m.2).length ≤ bound) :
    Reader.ReadsAs (member (bound + 1) known) Printer.member (addMember? known) m := by
  intro read read' rest hs hrest
  rw [member, Reader.key_member, Reader.string_print]
  simp only [bind, Except.bind, Reader.colon_cons]
  rw [addMember?] at hs
  cases hfind : known.find? (·.name == m.1) with
  | none =>
    rw [hfind] at hs
    obtain rfl := Option.some.inj hs
    simp only [Reader.skip_print hi hb hrest]
  | some field =>
    rw [hfind] at hs
    simp only at hs ⊢
    split at hs
    · exact absurd hs (by simp)
    · rename_i hlookup
      obtain ⟨held, hheld, rfl⟩ := Option.map_eq_some_iff.mp hs
      rw [if_neg hlookup, FieldType.read_print hheld hi hd (by omega) hrest]

/-- Reading a printed value gives its fields. -/
theorem ofBytes_print {known : List Field} {v : Value} {read : Fields}
    (hread : ofValue? known v = some read) (hi : v.isIntegral = true)
    (hd : v.depth ≤ Reader.nestingLimit) : ofBytes known (Printer.value v) = .ok read := by
  obtain ⟨members, rfl⟩ : ∃ members, v = .object members := by
    cases v with
    | object members => exact ⟨members, rfl⟩
    | null | bool | number | string | array => exact absurd hread (by simp [ofValue?])
  obtain ⟨hread, hcomplete⟩ := Option.filter_eq_some_iff.mp hread
  have hmembers := Value.isIntegral_object.mp hi
  have hdepth := (Value.depthMembers_le members).mp (Nat.le_of_succ_le_succ hd)
  generalize hbound : (Printer.value (.object members)).length = bound
  obtain ⟨hcount, hlength⟩ := Reader.length_of_mem_object (Nat.le_succ_of_le (Nat.le_of_eq hbound))
  have hcontainer := Reader.container_separated (.inr rfl) [] (Nat.le_succ_of_le hcount)
    (fun m _ => Reader.opensValue_member m)
    (fun m hm => readsAs_member known (hmembers m hm) (hdepth m hm) (Nat.le_of_lt (hlength m hm)))
    hread
  have hspace : ∀ body, Reader.space (0x7B :: body) = 0x7B :: body := fun _ => rfl
  rw [ofBytes, hbound, Printer.value_object, hspace]
  dsimp only
  rw [if_pos rfl, hcontainer]
  simp only [bind, Except.bind]
  rw [if_pos hcomplete]
  rfl

end Fields

end DebugAdapter.Json
