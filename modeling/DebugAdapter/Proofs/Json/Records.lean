import DebugAdapter.Json.Record
import DebugAdapter.Proofs.Json.Shape

/-! # Records survive their written form

A record is lawful if its fields say all about it and none of them is written as `null`, which
stands for an absent field. A lawful record is read back from the object it is written as. -/

namespace DebugAdapter.Json

/-! ## Members by key -/

namespace Value

/-- Of two members with one key the later one counts. -/
theorem lookup?_cons (key k : String) (v : Value) (members : List (String × Value)) :
    lookup? key ((k, v) :: members) =
      (lookup? key members).or (if k = key then some v else none) := by
  rw [lookup?, List.reverse_cons, List.find?_append, Option.map_or, lookup?]
  by_cases h : k = key
  · rw [if_pos h, List.find?_cons_of_pos (by simpa using h)]
    rfl
  · rw [if_neg h, List.find?_cons_of_neg (by simpa using h)]
    rfl

theorem lookup?_of_forall_ne {key : String} {members : List (String × Value)}
    (h : ∀ m ∈ members, m.1 ≠ key) : lookup? key members = none := by
  induction members with
  | nil => rfl
  | cons m rest ih =>
    obtain ⟨k, v⟩ := m
    rw [lookup?_cons, ih fun m hm => h m (List.mem_cons_of_mem _ hm),
      if_neg (h (k, v) List.mem_cons_self)]
    rfl

end Value

namespace Record

theorem members_cons (name : String) (names : List String) (field : Option Value)
    (fields : List (Option Value)) :
    members (name :: names) (field :: fields) =
      (field.map (name, ·)).toList ++ members names fields := by
  cases field <;> rfl

theorem mem_members {names : List String} {fields : List (Option Value)} {m : String × Value}
    (h : m ∈ members names fields) : m.1 ∈ names ∧ some m.2 ∈ fields := by
  obtain ⟨⟨name, field⟩, hmem, heq⟩ := List.mem_filterMap.mp h
  obtain ⟨v, rfl, rfl⟩ := Option.map_eq_some_iff.mp heq
  exact ⟨(List.of_mem_zip hmem).1, (List.of_mem_zip hmem).2⟩

theorem present_of_ne_null {v : Value} (h : v ≠ .null) : present v = some v := by
  cases v with
  | null => exact absurd rfl h
  | bool | number | string | array | object => rfl

/-- The fields of a record are found in its object again. -/
theorem map_lookup?_members {names : List String} {fields : List (Option Value)}
    (hnodup : names.Nodup) (hlength : fields.length = names.length)
    (hnull : ∀ v, some v ∈ fields → v ≠ .null) :
    names.map (fun name => (Value.lookup? name (members names fields)).bind present) =
      fields := by
  induction names generalizing fields with
  | nil => exact (List.eq_nil_of_length_eq_zero hlength).symm
  | cons name names ih =>
    cases fields with
    | nil => exact absurd hlength.symm (Nat.succ_ne_zero _)
    | cons field fields =>
      obtain ⟨hfresh, hnodup⟩ := List.nodup_cons.mp hnodup
      have hrest := ih hnodup (Nat.succ.inj hlength)
        fun v hv => hnull v (List.mem_cons_of_mem _ hv)
      have hnone : Value.lookup? name (members names fields) = none :=
        Value.lookup?_of_forall_ne fun m hm he => hfresh (he ▸ (mem_members hm).1)
      rw [List.map_cons, members_cons]
      congr 1
      · cases field with
        | none => rw [Option.map_none, Option.toList_none, List.nil_append, hnone, Option.bind_none]
        | some v =>
          rw [Option.map_some, Option.toList_some, List.singleton_append, Value.lookup?_cons, hnone,
            if_pos rfl]
          exact present_of_ne_null (hnull v List.mem_cons_self)
      · rw [← hrest]
        apply List.map_congr_left
        intro other hother
        have hne : name ≠ other := fun he => hfresh (he ▸ hother)
        rw [hrest]
        cases field with
        | none => rw [Option.map_none, Option.toList_none, List.nil_append]
        | some v =>
          rw [Option.map_some, Option.toList_some, List.singleton_append, Value.lookup?_cons,
            if_neg hne, Option.or_none]

variable {α : Type} [Record α]

/-- A record none of whose fields is written as `null` is read back from its object. -/
theorem ofValue?_toValue_of_ne_null {a : α} (hnodup : (names α).Nodup)
    (hlength : (fields a).length = (names α).length) (hnull : ∀ v, some v ∈ fields a → v ≠ .null)
    (hread : ofFields? (fields a) = some a) : ofValue? (toValue a) = some a := by
  rw [toValue, ofValue?, map_lookup?_members hnodup hlength hnull, hread]

theorem isIntegral_toValue_of_fields {a : α}
    (h : ∀ v, some v ∈ fields a → v.isIntegral = true) : (toValue a).isIntegral = true :=
  Value.isIntegral_object.mpr fun m hm => h m.2 (mem_members hm).2

end Record

/-! ## Lawful records -/

/-- A value that a field may be written as: it is not `null`, and its numbers are integers. -/
def Value.isPlain (v : Value) : Bool := v.isIntegral && v ≠ .null

/-- A record that is read back whatever its fields are. Where all fields are of lawful types, the
lemmas on these types show it. -/
class LawfulRecord (α : Type) [Record α] : Prop where
  nodup_names : (Record.names α).Nodup := by decide
  length_fields : ∀ a : α, (Record.fields a).length = (Record.names α).length := by
    intro a
    rfl
  plain_fields : ∀ a : α, (Record.fields a).all (·.all Value.isPlain) = true := by
    intro a
    simp [Record.fields]
  ofFields?_fields : ∀ a : α, Record.ofFields? (Record.fields a) = some a := by
    intro a
    simp [Record.ofFields?, Record.fields]

namespace Record

variable {α : Type} [Record α] [LawfulRecord α]

theorem isPlain_of_mem_fields {a : α} {v : Value} (h : some v ∈ fields a) :
    v.isIntegral = true ∧ v ≠ .null := by
  have hv := List.all_eq_true.mp (LawfulRecord.plain_fields a) (some v) h
  simpa [Value.isPlain] using hv

@[simp] theorem ofValue?_toValue (a : α) : ofValue? (toValue a) = some a :=
  ofValue?_toValue_of_ne_null LawfulRecord.nodup_names (LawfulRecord.length_fields a)
    (fun _ hv => (isPlain_of_mem_fields hv).2) (LawfulRecord.ofFields?_fields a)

@[simp] theorem isIntegral_toValue (a : α) : (toValue a).isIntegral = true :=
  isIntegral_toValue_of_fields fun _ hv => (isPlain_of_mem_fields hv).1

@[simp] theorem isPlain_toValue (a : α) : (toValue a).isPlain = true := by
  rw [Value.isPlain, isIntegral_toValue]
  rfl

end Record

/-! ## Values of fields -/

namespace Value

@[simp] theorem string?_string (text : String) : (Value.string text).string? = some text := by
  rw [string?]

@[simp] theorem bool?_bool (b : Bool) : (Value.bool b).bool? = some b := by
  rw [bool?]

@[simp] theorem int64?_int64 (n : Int64) : (Value.int64 n).int64? = some n := by
  rw [int64, int64?]
  exact (if_pos (Int64.toInt_lt n)).trans (congrArg some (Int64.ofInt_toInt n))

@[simp] theorem list?_listOf {α : Type} {read : Value → Option α} {write : α → Value}
    (h : ∀ a, read (write a) = some a) (items : List α) :
    list? read (listOf write items) = some items := by
  rw [listOf, list?]
  induction items with
  | nil => rfl
  | cons a items ih => rw [List.map_cons, List.mapM_cons, h, ih]; rfl

@[simp] theorem required_some {α : Type} (read : Value → Option α) (v : Value) :
    required read (some v) = read v := rfl

@[simp] theorem optional_map {α : Type} {read : Value → Option α} {write : α → Value}
    (h : ∀ a, read (write a) = some a) (field : Option α) :
    optional read (field.map write) = some field := by
  cases field with
  | none => rfl
  | some a => rw [Option.map_some, optional, h]; rfl

@[simp] theorem isPlain_string (text : String) : (Value.string text).isPlain = true := by
  rw [isPlain, isIntegral]
  rfl

@[simp] theorem isPlain_bool (b : Bool) : (Value.bool b).isPlain = true := by
  rw [isPlain, isIntegral]
  rfl

@[simp] theorem isPlain_int64 (n : Int64) : (Value.int64 n).isPlain = true := by
  rw [isPlain, int64, isIntegral]
  rfl

@[simp] theorem isPlain_listOf {α : Type} [Record α] [LawfulRecord α] (items : List α) :
    (listOf Record.toValue items).isPlain = true := by
  have h : (listOf Record.toValue items).isIntegral = true := by
    refine isIntegral_array.mpr fun v hv => ?_
    obtain ⟨a, -, rfl⟩ := List.mem_map.mp hv
    exact Record.isIntegral_toValue a
  rw [isPlain, h]
  rfl

@[simp] theorem all_isPlain_map {α : Type} {write : α → Value}
    (h : ∀ a, (write a).isPlain = true) (field : Option α) :
    (field.map write).all isPlain = true := by
  cases field with
  | none => rfl
  | some a => exact h a

end Value

end DebugAdapter.Json
