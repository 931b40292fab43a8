import DebugAdapter.Json.Value

/-! # The shape of values

Induction over nested values, how deep their containers are nested, which numbers occur in them,
and canonical values as the fixed points of the canonical form. -/

namespace DebugAdapter.Json.Value

/-! ## Induction -/

/-- A property holds of all values if containers inherit it from what they contain. -/
theorem induct {motive : Value → Prop} (null : motive .null) (bool : ∀ b, motive (.bool b))
    (number : ∀ n, motive (.number n)) (string : ∀ text, motive (.string text))
    (array : ∀ items, (∀ v ∈ items, motive v) → motive (.array items))
    (object : ∀ members, (∀ m ∈ members, motive m.2) → motive (.object members)) (v : Value) :
    motive v := by
  apply @Value.rec motive (fun items => ∀ v ∈ items, motive v)
    (fun members => ∀ m ∈ members, motive m.2) (fun m => motive m.2)
    null bool number string array object
  · intro v hv
    exact absurd hv List.not_mem_nil
  · intro v items hv hitems w hw
    rcases List.mem_cons.mp hw with rfl | hw
    · exact hv
    · exact hitems w hw
  · intro m hm
    exact absurd hm List.not_mem_nil
  · intro m members hm hmembers w hw
    rcases List.mem_cons.mp hw with rfl | hw
    · exact hm
    · exact hmembers w hw
  · intro k v hv
    exact hv

/-! ## Nesting -/

mutual

/-- How many containers are nested in a value. -/
def depth : Value → Nat
  | .null => 0
  | .bool _ => 0
  | .number _ => 0
  | .string _ => 0
  | .array items => depthItems items + 1
  | .object members => depthMembers members + 1
termination_by structural v => v

def depthItems : List Value → Nat
  | [] => 0
  | v :: rest => max v.depth (depthItems rest)
termination_by structural vs => vs

def depthMembers : List (String × Value) → Nat
  | [] => 0
  | (_, v) :: rest => max v.depth (depthMembers rest)
termination_by structural ms => ms

end

theorem depthItems_le {n : Nat} (items : List Value) :
    depthItems items ≤ n ↔ ∀ v ∈ items, v.depth ≤ n := by
  induction items with
  | nil => simp [depthItems]
  | cons v rest ih => simp only [depthItems, Nat.max_le, ih, List.forall_mem_cons]

theorem depthMembers_le {n : Nat} (members : List (String × Value)) :
    depthMembers members ≤ n ↔ ∀ m ∈ members, m.2.depth ≤ n := by
  induction members with
  | nil => simp [depthMembers]
  | cons m rest ih => simp only [depthMembers, Nat.max_le, ih, List.forall_mem_cons]

/-! ## Numbers -/

mutual

/-- Whether every number inside a value is an integer. -/
def isIntegral : Value → Bool
  | .null => true
  | .bool _ => true
  | .number (.integer _) => true
  | .number (.double _) => false
  | .string _ => true
  | .array items => areIntegral items
  | .object members => haveIntegral members
termination_by structural v => v

def areIntegral : List Value → Bool
  | [] => true
  | v :: rest => v.isIntegral && areIntegral rest
termination_by structural vs => vs

def haveIntegral : List (String × Value) → Bool
  | [] => true
  | (_, v) :: rest => v.isIntegral && haveIntegral rest
termination_by structural ms => ms

end

theorem areIntegral_iff (items : List Value) :
    areIntegral items = true ↔ ∀ v ∈ items, v.isIntegral = true := by
  induction items with
  | nil => simp [areIntegral]
  | cons v rest ih => simp only [areIntegral, Bool.and_eq_true, ih, List.forall_mem_cons]

theorem haveIntegral_iff (members : List (String × Value)) :
    haveIntegral members = true ↔ ∀ m ∈ members, m.2.isIntegral = true := by
  induction members with
  | nil => simp [haveIntegral]
  | cons m rest ih => simp only [haveIntegral, Bool.and_eq_true, ih, List.forall_mem_cons]

theorem isIntegral_array {items : List Value} :
    (Value.array items).isIntegral = true ↔ ∀ v ∈ items, v.isIntegral = true :=
  areIntegral_iff items

theorem isIntegral_object {members : List (String × Value)} :
    (Value.object members).isIntegral = true ↔ ∀ m ∈ members, m.2.isIntegral = true :=
  haveIntegral_iff members

end DebugAdapter.Json.Value

/-! ## Canonical values -/

namespace DebugAdapter.Ascending

variable {κ α : Type} [LT κ] [DecidableLT κ]

/-- Ascending neighbours make the whole list ascending. -/
theorem pairwise_of_isAscending (trans : ∀ {j k l : κ}, j < k → k < l → j < l)
    {entries : List (κ × α)} (h : isAscending entries = true) :
    entries.Pairwise (·.1 < ·.1) := by
  fun_induction isAscending entries with
  | case1 => exact .nil
  | case2 => exact List.pairwise_singleton _ _
  | case3 k a l b rest ih =>
    simp only [Bool.and_eq_true, decide_eq_true_eq] at h
    have hrest := ih h.2
    refine List.pairwise_cons.mpr ⟨?_, hrest⟩
    intro m hm
    rcases List.mem_cons.mp hm with rfl | hm
    · exact h.1
    · exact trans h.1 (List.rel_of_pairwise_cons hrest hm)

/-- A key beyond all others is put at the end. -/
theorem insert_of_forall_lt [DecidableEq κ] (irrefl : ∀ k : κ, ¬ k < k)
    (asymm : ∀ {j k : κ}, j < k → ¬ k < j) {key : κ} {a : α} {entries : List (κ × α)}
    (h : ∀ m ∈ entries, m.1 < key) : insert key a entries = entries ++ [(key, a)] := by
  induction entries with
  | nil => rfl
  | cons m rest ih =>
    obtain ⟨k, b⟩ := m
    have hk : k < key := h (k, b) List.mem_cons_self
    have hne : key ≠ k := fun he => irrefl k (he ▸ hk)
    rw [insert, if_neg (asymm hk), if_neg hne, List.cons_append,
      ih fun m hm => h m (List.mem_cons_of_mem _ hm)]

end DebugAdapter.Ascending

namespace DebugAdapter.Json.Value

theorem areCanonical_iff (items : List Value) :
    areCanonical items = true ↔ ∀ v ∈ items, v.isCanonical = true := by
  induction items with
  | nil => simp [areCanonical]
  | cons v rest ih => simp only [areCanonical, Bool.and_eq_true, ih, List.forall_mem_cons]

theorem haveCanonical_iff (members : List (String × Value)) :
    haveCanonical members = true ↔ ∀ m ∈ members, m.2.isCanonical = true := by
  induction members with
  | nil => simp [haveCanonical]
  | cons m rest ih => simp only [haveCanonical, Bool.and_eq_true, ih, List.forall_mem_cons]

theorem canonicalItems_eq_map (items : List Value) :
    canonicalItems items = items.map canonical := by
  induction items with
  | nil => rfl
  | cons v rest ih => rw [canonicalItems, ih, List.map_cons]

/-- Members in ascending order are appended one after the other. -/
theorem canonicalMembers_of_pairwise {into members : List (String × Value)}
    (hp : (into ++ members).Pairwise (·.1 < ·.1)) (hc : ∀ m ∈ members, m.2.canonical = m.2) :
    canonicalMembers into members = into ++ members := by
  induction members generalizing into with
  | nil => rw [canonicalMembers, List.append_nil]
  | cons m rest ih =>
    obtain ⟨k, v⟩ := m
    have hlt : ∀ m ∈ into, m.1 < k := fun m hm =>
      (List.pairwise_append.mp hp).2.2 m hm (k, v) List.mem_cons_self
    have hv : v.canonical = v := hc (k, v) List.mem_cons_self
    rw [canonicalMembers, hv, Ascending.insert_of_forall_lt String.lt_irrefl String.lt_asymm hlt,
      ih, List.append_assoc, List.singleton_append]
    · simpa only [List.append_assoc, List.singleton_append] using hp
    · exact fun m hm => hc m (List.mem_cons_of_mem _ hm)

/-- A canonical value is its own canonical form. -/
theorem canonical_of_isCanonical (v : Value) (h : v.isCanonical = true) : v.canonical = v := by
  induction v using induct with
  | null | bool | number | string => rfl
  | array items ih =>
    have hitems := (areCanonical_iff items).mp h
    rw [canonical, canonicalItems_eq_map,
      List.map_congr_left (g := id) fun v hv => ih v hv (hitems v hv), List.map_id]
  | object members ih =>
    simp only [isCanonical, Bool.and_eq_true] at h
    have hmembers := (haveCanonical_iff members).mp h.2
    rw [canonical, canonicalMembers_of_pairwise, List.nil_append]
    · exact Ascending.pairwise_of_isAscending String.lt_trans h.1
    · exact fun m hm => ih m hm (hmembers m hm)

end DebugAdapter.Json.Value

namespace DebugAdapter.Json

@[simp] theorem FreeForm.ofValue_value (data : FreeForm) : ofValue data.value = data := by
  obtain ⟨v, hv⟩ := data
  simp only [ofValue, Value.canonical_of_isCanonical v hv]

@[simp] theorem FreeMembers.ofMembers_members (data : FreeMembers) :
    ofMembers data.members = data := by
  obtain ⟨members, hmembers⟩ := data
  have h := Value.canonical_of_isCanonical (.object members) hmembers
  rw [Value.canonical] at h
  simp only [ofMembers, Value.object.inj h]

end DebugAdapter.Json
