import DebugAdapter.Json.Fields
import DebugAdapter.Proofs.Json.Records

/-! # How deep values are nested

Readers keep a value only if its containers are not nested too deep, whatever it looks like. Neither the
canonical form of a value nor what is left out of an object makes it deeper. -/

namespace DebugAdapter

/-! ## What a result ensures -/

/-- The result has a property if it is no error. -/
def Ensures {ε α : Type} (x : Except ε α) (post : α → Prop) : Prop := ∀ a, x = .ok a → post a

namespace Ensures

variable {ε α β : Type} {x : Except ε α} {mid : α → Prop} {post : β → Prop}

theorem error (e : ε) : Ensures (.error e) mid := fun _ h => nomatch h

theorem ok {a : α} (h : mid a) : Ensures (.ok a : Except ε α) mid :=
  fun _ heq => Except.ok.inj heq ▸ h

theorem bind {f : α → Except ε β} (hx : Ensures x mid) (hf : ∀ a, mid a → Ensures (f a) post) :
    Ensures (x >>= f) post := by
  cases x with
  | error e => exact fun _ h => nomatch h
  | ok a => exact hf a (hx a rfl)

theorem trivial : Ensures x fun _ => True := fun _ _ => True.intro

end Ensures

namespace Json

/-! ## Values that are read -/

namespace Reader

variable {σ : Type} {P : σ → Prop} {close : UInt8} {item : σ → Bytes → Except Error (σ × Bytes)}

/-- What every element keeps up, all elements together keep up. -/
theorem elements_ensures (hitem : ∀ s bytes, P s → Ensures (item s bytes) (P ·.1)) {bound : Nat}
    {s : σ} {bytes : Bytes} (hs : P s) :
    Ensures (elements close item bound s bytes) (P ·.1) := by
  induction bound generalizing s bytes with
  | zero => exact .error _
  | succ bound ih =>
    refine (hitem s _ hs).bind fun (s', rest) hs' => ?_
    dsimp only
    split
    · exact .error _
    · split
      · exact ih hs'
      · split
        · exact .ok hs'
        · exact .error _

theorem container_ensures (hitem : ∀ s bytes, P s → Ensures (item s bytes) (P ·.1)) {bound : Nat}
    {s : σ} {bytes : Bytes} (hs : P s) :
    Ensures (container close item bound s bytes) (P ·.1) := by
  unfold container
  split
  · exact .error _
  · split
    · exact .ok hs
    · exact elements_ensures hitem hs

theorem scalar_ensures (bytes : Bytes) : Ensures (scalar bytes) (·.1.depth = 0) := by
  unfold scalar
  split
  · exact .error _
  · split
    · exact Ensures.trivial.bind fun _ _ => .ok rfl
    split
    · exact Ensures.trivial.bind fun _ _ => .ok rfl
    split
    · exact Ensures.trivial.bind fun _ _ => .ok rfl
    split
    · exact Ensures.trivial.bind fun _ _ => .ok rfl
    split
    · exact Ensures.trivial.bind fun _ _ => Ensures.trivial.bind fun _ _ => .ok rfl
    · exact .error _

/-- A value that is read has no more nested containers than allowed. -/
theorem value_ensures (bound limit : Nat) (bytes : Bytes) :
    Ensures (value bound limit bytes) (·.1.depth ≤ limit) := by
  induction limit generalizing bytes with
  | zero =>
    unfold value
    split
    · exact .error _
    · split
      · exact .error _
      · exact fun _ h => Nat.le_of_eq (scalar_ensures _ _ h)
  | succ limit ih =>
    unfold value
    split
    · exact .error _
    · split
      · refine (container_ensures (P := fun items => ∀ v ∈ items, v.depth ≤ limit) ?_ ?_).bind ?_
        · intro items bytes hitems
          refine (ih bytes).bind fun (v, rest) hv => .ok ?_
          exact List.forall_mem_cons.mpr ⟨hv, hitems⟩
        · simp
        · intro (items, rest) hitems
          refine .ok ?_
          simpa [Value.depth, Value.depthItems_le] using hitems
      · split
        · refine (container_ensures (P := fun members => ∀ m ∈ members, m.2.depth ≤ limit)
            ?_ ?_).bind ?_
          · intro members bytes hmembers
            refine Ensures.trivial.bind fun (k, rest) _ => Ensures.trivial.bind fun rest _ =>
              (ih rest).bind fun (v, rest) hv => .ok ?_
            exact List.forall_mem_cons.mpr ⟨hv, hmembers⟩
          · simp
          · intro (members, rest) hmembers
            refine .ok ?_
            simpa [Value.depth, Value.depthMembers_le] using hmembers
        · exact fun _ h => Nat.le_trans (Nat.le_of_eq (scalar_ensures _ _ h)) (Nat.zero_le _)

theorem optional_ensures {α : Type} {read : Bytes → Except Error (α × Bytes)} {P : α → Prop}
    (hread : ∀ bytes, Ensures (read bytes) (P ·.1)) (bytes : Bytes) :
    Ensures (optional read bytes) fun r => ∀ a ∈ r.1, P a := by
  unfold optional
  split
  · exact Ensures.trivial.bind fun _ _ => .ok (by simp)
  · exact (hread _).bind fun (a, rest) ha => .ok (by simpa using ha)

theorem complete_ensures {α : Type} {result : Except Error (α × Bytes)} {P : α → Prop}
    (h : Ensures result (P ·.1)) : Ensures (complete result) P := by
  refine h.bind fun (a, rest) ha => ?_
  dsimp only
  split
  · exact .ok ha
  · exact .error _

end Reader

/-! ## Values that are held -/

/-- What is held is nested so deep at most. -/
def Held.Within (n : Nat) : Held → Prop
  | .optionalValue (some v) => v.depth ≤ n
  | _ => True

/-- The record itself counts as one container. -/
def fieldLimit : Nat := Reader.nestingLimit - 1

theorem FieldType.read_ensures (bound : Nat) (type : FieldType) (bytes : Bytes) :
    Ensures (type.read bound bytes) (·.1.Within fieldLimit) := by
  cases type with
  | text | integer | flag | optionalText =>
    exact Ensures.trivial.bind fun _ _ => .ok True.intro
  | optionalValue =>
    have hread := Reader.optional_ensures (P := fun v : Value => v.depth ≤ fieldLimit)
      (Reader.value_ensures bound fieldLimit) bytes
    refine hread.bind fun (v, rest) hv => .ok ?_
    cases v with
    | none => exact True.intro
    | some v => exact hv v rfl

namespace Fields

/-- All that is held is nested so deep at most. -/
def Within (n : Nat) (read : Fields) : Prop := ∀ field ∈ read, field.2.Within n

theorem within_nil (n : Nat) : Within n [] := fun _ h => absurd h List.not_mem_nil

theorem Within.cons {n : Nat} {read : Fields} {name : String} {held : Held} (h : Within n read)
    (hheld : held.Within n) : Within n ((name, held) :: read) := by
  intro field hmem
  rcases List.mem_cons.mp hmem with rfl | hmem
  · exact hheld
  · exact h field hmem

theorem member_ensures (bound : Nat) (known : List Field) {read : Fields} (bytes : Bytes)
    (h : read.Within fieldLimit) :
    Ensures (member bound known read bytes) (·.1.Within fieldLimit) := by
  refine Ensures.trivial.bind fun (name, rest) _ => ?_
  dsimp only
  split
  · exact Ensures.trivial.bind fun _ _ => Ensures.trivial.bind fun _ _ => .ok h
  · rename_i field _
    split
    · exact .error _
    · refine Ensures.trivial.bind fun rest _ => ?_
      exact (field.type.read_ensures bound rest).bind fun (held, rest) hheld => .ok (h.cons hheld)

theorem inOrder_ensures (bound : Nat) (first : Bool) (known : List Field) (bytes : Bytes) :
    Ensures (inOrder bound first known bytes) (·.1.Within fieldLimit) := by
  induction known generalizing first bytes with
  | nil =>
    unfold inOrder
    split
    · exact .error _
    · split
      · exact .ok (within_nil _)
      · exact .error _
  | cons field known ih =>
    unfold inOrder
    split
    · exact .error _
    · split
      · split
        · exact .ok (within_nil _)
        · exact .error _
      · have hrest : ∀ element, Ensures (field.type.read bound element >>= fun held =>
            inOrder bound false known held.2 >>= fun read =>
              .ok ((field.name, held.1) :: read.1, read.2)) fun r => Within fieldLimit r.1 := by
          intro element
          refine (field.type.read_ensures bound element).bind fun held hheld => ?_
          exact (ih false held.2).bind fun read hread => .ok (hread.cons hheld)
        dsimp only
        split
        · exact hrest _
        · split
          · split
            · exact .error _
            · split
              · exact .error _
              · exact hrest _
          · exact .error _

/-- The fields of a record hold nothing that is nested too deep. -/
theorem ofBytes_ensures (known : List Field) (bytes : Bytes) :
    Ensures (ofBytes known bytes) (Within fieldLimit) := by
  apply Reader.complete_ensures
  split
  · exact .error _
  · split
    · refine (Reader.container_ensures (fun _ bytes h => member_ensures _ known bytes h)
        (within_nil _)).bind fun (read, rest) hread => ?_
      dsimp only
      split
      · exact .ok hread
      · exact .error _
    · split
      · exact inOrder_ensures _ true known _
      · exact .error _

theorem Within.value? {n : Nat} {read : Fields} (h : Within n read) {name : String} {v : Value}
    (hv : read.value? name = some v) : v.depth ≤ n := by
  unfold Fields.value? at hv
  split at hv
  · rename_i held hlookup
    obtain ⟨before, after, rfl, -⟩ := List.lookup_eq_some_iff.mp hlookup
    have hheld := h (name, .optionalValue held) (by simp)
    rwa [hv] at hheld
  · exact nomatch hv

end Fields

/-! ## Canonical forms -/

namespace Value

/-- All members have a property. -/
theorem forall_mem_insert {P : String × Value → Prop} {key : String} {v : Value}
    {members : List (String × Value)} (hv : P (key, v)) (h : ∀ m ∈ members, P m) :
    ∀ m ∈ Ascending.insert key v members, P m := by
  fun_induction Ascending.insert key v members <;> simp_all

theorem forall_mem_canonicalMembers {P : String × Value → Prop}
    {into members : List (String × Value)} (hinto : ∀ m ∈ into, P m)
    (h : ∀ m ∈ members, P (m.1, m.2.canonical)) :
    ∀ m ∈ canonicalMembers into members, P m := by
  induction members generalizing into with
  | nil => exact hinto
  | cons m rest ih =>
    have hfirst := h m List.mem_cons_self
    refine ih (forall_mem_insert hfirst hinto) fun m hm => h m (List.mem_cons_of_mem _ hm)

theorem depth_canonical_le (v : Value) : v.canonical.depth ≤ v.depth := by
  induction v using induct with
  | null | bool | number | string => exact Nat.le_refl _
  | array items ih =>
    simp only [canonical, depth, Nat.add_le_add_iff_right, depthItems_le, canonicalItems_eq_map,
      List.mem_map, forall_exists_index, and_imp, forall_apply_eq_imp_iff₂]
    intro v hv
    exact Nat.le_trans (ih v hv) ((depthItems_le items).mp (Nat.le_refl _) v hv)
  | object members ih =>
    simp only [canonical, depth, Nat.add_le_add_iff_right, depthMembers_le]
    apply forall_mem_canonicalMembers (P := (·.2.depth ≤ depthMembers members)) (by simp)
    intro m hm
    exact Nat.le_trans (ih m hm) ((depthMembers_le members).mp (Nat.le_refl _) m hm)

theorem canonical_ne_null {v : Value} (h : v ≠ .null) : v.canonical ≠ .null := by
  cases v with
  | null => exact absurd rfl h
  | bool | number | string | array | object => simp [canonical]

end Value

/-! ## Records -/

/-- Whether at most so many containers are nested in a value. -/
def Value.isShallow (n : Nat) (v : Value) : Bool := v.depth ≤ n

/-- A record none of whose fields is nested deeper than so. Where all fields are of such types, the lemmas
on these types show it. -/
class ShallowRecord (n : outParam Nat) (α : Type) [Record α] : Prop where
  shallow_fields : ∀ a : α, (Record.fields a).all (·.all (Value.isShallow n)) = true := by
    intro a
    simp [Record.fields]

theorem Value.mem_of_lookup? {key : String} {members : List (String × Value)} {v : Value}
    (h : lookup? key members = some v) : ∃ k, (k, v) ∈ members := by
  obtain ⟨⟨k, w⟩, hfind, rfl⟩ := Option.map_eq_some_iff.mp h
  exact ⟨k, List.mem_reverse.mp (List.mem_of_find?_eq_some hfind)⟩

namespace Record

variable {α : Type} [Record α]

/-- The fields of a record that is read lie inside its value. -/
theorem exists_fields_of_ofValue? {v : Value} {a : α} (h : ofValue? v = some a) :
    ∃ fields, ofFields? fields = some a ∧
      ∀ w, some w ∈ fields → ∃ inner, present inner = some w ∧ inner.depth < v.depth := by
  cases v with
  | null | bool | number | string => exact nomatch h
  | array items =>
    have hread : items.length = (names α).length ∧ ofFields? (items.map present) = some a := by
      simpa [ofValue?] using h
    refine ⟨_, hread.2, ?_⟩
    intro w hw
    obtain ⟨inner, hmem, hpresent⟩ := List.mem_map.mp hw
    have hinner := (Value.depthItems_le items).mp (Nat.le_refl _) inner hmem
    exact ⟨inner, hpresent, Nat.lt_succ_of_le hinner⟩
  | object members =>
    refine ⟨_, h, ?_⟩
    intro w hw
    obtain ⟨name, -, hfield⟩ := List.mem_map.mp hw
    obtain ⟨inner, hlookup, hpresent⟩ := Option.bind_eq_some_iff.mp hfield
    obtain ⟨k, hmem⟩ := Value.mem_of_lookup? hlookup
    have hinner := (Value.depthMembers_le members).mp (Nat.le_refl _) (k, inner) hmem
    exact ⟨inner, hpresent, Nat.lt_succ_of_le hinner⟩

theorem depth_toValue_of_fields {n : Nat} {a : α} (h : ∀ v, some v ∈ fields a → v.depth ≤ n) :
    (toValue a).depth ≤ n + 1 :=
  Nat.succ_le_succ ((Value.depthMembers_le _).mpr fun m hm => h m.2 (mem_members hm).2)

theorem depth_toValue_le {n : Nat} [ShallowRecord n α] (a : α) : (toValue a).depth ≤ n + 1 := by
  apply depth_toValue_of_fields
  intro v hv
  exact of_decide_eq_true (List.all_eq_true.mp (ShallowRecord.shallow_fields a) (some v) hv)

@[simp] theorem isShallow_toValue {n : Nat} [ShallowRecord n α] (a : α) :
    (toValue a).isShallow (n + 1) = true :=
  decide_eq_true (depth_toValue_le a)

end Record

namespace Value

@[simp] theorem isShallow_string (n : Nat) (text : String) : (Value.string text).isShallow n = true :=
  decide_eq_true n.zero_le

@[simp] theorem isShallow_bool (n : Nat) (b : Bool) : (Value.bool b).isShallow n = true :=
  decide_eq_true n.zero_le

@[simp] theorem isShallow_int64 (n : Nat) (k : Int64) : (Value.int64 k).isShallow n = true :=
  decide_eq_true n.zero_le

@[simp] theorem isShallow_listOf {α : Type} [Record α] {n : Nat} [ShallowRecord n α] (items : List α) :
    (listOf Record.toValue items).isShallow (n + 2) = true := by
  refine decide_eq_true (Nat.succ_le_succ ((depthItems_le _).mpr fun v hv => ?_))
  obtain ⟨a, -, rfl⟩ := List.mem_map.mp hv
  exact Record.depth_toValue_le a

@[simp] theorem all_isShallow_map {α : Type} {write : α → Value} {n : Nat}
    (h : ∀ a, (write a).isShallow n = true) (field : Option α) :
    (field.map write).all (isShallow n) = true := by
  cases field with
  | none => rfl
  | some a => exact h a

end Value

end Json

end DebugAdapter
