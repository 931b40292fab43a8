import DebugAdapter.Proofs.Json.Numerals
import DebugAdapter.Proofs.Json.Strings

/-! # Containers read back

Elements with commas between them are read in their order. Whatever a reader makes of one
element, the reader of the container makes of all of them, folded over the elements. -/

namespace DebugAdapter.Json

/-! ## Printed containers -/

namespace Printer

/-- A member of an object. -/
def member (m : String × Value) : Bytes := string m.1 ++ 0x3A :: value m.2

/-- Texts with commas between them. -/
def separated {α : Type} (text : α → Bytes) : List α → Bytes
  | [] => []
  | a :: as => text a ++ as.flatMap (fun a => 0x2C :: text a)

theorem items_eq (vs : List Value) :
    items vs = vs.flatMap (fun v => 0x2C :: value v) ++ [0x5D] := by
  induction vs with
  | nil => rfl
  | cons v vs ih =>
    rw [items, ih, List.flatMap_cons, List.append_assoc, List.cons_append]

theorem members_eq (ms : List (String × Value)) :
    members ms = ms.flatMap (fun m => 0x2C :: member m) ++ [0x7D] := by
  induction ms with
  | nil => rfl
  | cons m ms ih =>
    rw [members, ih, List.flatMap_cons, member, List.append_assoc, List.cons_append,
      List.append_assoc, List.cons_append]

theorem value_array (vs : List Value) :
    value (.array vs) = 0x5B :: (separated value vs ++ [0x5D]) := by
  cases vs with
  | nil => rfl
  | cons v vs => rw [value, items_eq, separated, List.append_assoc]

theorem value_object (ms : List (String × Value)) :
    value (.object ms) = 0x7B :: (separated member ms ++ [0x7D]) := by
  cases ms with
  | nil => rfl
  | cons m ms =>
    rw [value, members_eq, separated, member, List.append_assoc, List.append_assoc,
      List.cons_append]

section Lengths

variable {α : Type} (text : α → Bytes) (as : List α)

theorem length_le_length_separated {as : List α} {a : α} (h : a ∈ as) :
    (text a).length ≤ (separated text as).length := by
  cases as with
  | nil => exact absurd h List.not_mem_nil
  | cons b as =>
    rw [separated, List.length_append]
    rcases List.mem_cons.mp h with rfl | h
    · omega
    · obtain ⟨before, after, rfl⟩ := List.append_of_mem h
      simp only [List.flatMap_append, List.flatMap_cons, List.length_append, List.length_cons]
      omega

/-- There is at least a comma for every element but the first. -/
theorem length_le_separated_add_one : as.length ≤ (separated text as).length + 1 := by
  cases as with
  | nil => exact Nat.zero_le _
  | cons a as =>
    have h : as.length ≤ (as.flatMap fun a => 0x2C :: text a).length := by
      induction as with
      | nil => exact Nat.le_refl 0
      | cons b as ih =>
        simp only [List.flatMap_cons, List.length_append, List.length_cons]
        omega
    rw [separated, List.length_append, List.length_cons]
    omega

end Lengths

end Printer

namespace Reader

/-! ## First bytes -/

/-- Whether the first byte is neither blank nor the end of a container. -/
def opensValue : Bytes → Bool
  | [] => false
  | b :: _ =>
    !(b == 0x20 || b == 0x09 || b == 0x0A || b == 0x0D) && !(b == 0x5D || b == 0x7D)

theorem space_of_opensValue {bytes : Bytes} (h : opensValue bytes = true) (rest : Bytes) :
    space (bytes ++ rest) = bytes ++ rest := by
  cases bytes with
  | nil => exact absurd h Bool.false_ne_true
  | cons b bytes =>
    simp only [opensValue, Bool.and_eq_true, Bool.not_eq_true'] at h
    rw [List.cons_append, space, List.dropWhile_cons_of_neg]
    rw [h.1]
    exact Bool.false_ne_true

theorem space_of_endsValue {rest : Bytes} (h : endsValue rest = true) : space rest = rest := by
  obtain rfl | ⟨b, more, rfl, rfl | rfl | rfl⟩ := cases_of_endsValue h <;> rfl

/-! ## Elements -/

section Elements

variable {α σ : Type} {close : UInt8} {item : σ → Bytes → Except Error (σ × Bytes)}
  {text : α → Bytes} {step : σ → α → Option σ} {s s' : σ}

/-- An element that is followed by a comma or an end is read as `step` says. -/
def ReadsAs (item : σ → Bytes → Except Error (σ × Bytes)) (text : α → Bytes)
    (step : σ → α → Option σ) (a : α) : Prop :=
  ∀ s s' rest, step s a = some s' → endsValue rest = true →
    item s (space (text a ++ rest)) = .ok (s', rest)

theorem elements_separated (hclose : close = 0x5D ∨ close = 0x7D) (rest : Bytes)
    {a : α} {as : List α} {bound : Nat} (hbound : as.length < bound)
    (hitem : ∀ x ∈ a :: as, ReadsAs item text step x)
    (hfold : (a :: as).foldlM step s = some s') :
    elements close item bound s (Printer.separated text (a :: as) ++ close :: rest) =
      .ok (s', rest) := by
  induction as generalizing a s bound with
  | nil =>
    obtain ⟨bound, rfl⟩ := Nat.exists_eq_add_one_of_ne_zero (Nat.ne_of_gt hbound)
    have hs : step s a = some s' := by simpa using hfold
    have hend : endsValue (close :: rest) = true := by rcases hclose with rfl | rfl <;> rfl
    rw [Printer.separated, List.flatMap_nil, List.append_nil, elements,
      hitem a List.mem_cons_self s s' _ hs hend]
    simp only [bind, Except.bind]
    rw [space_of_endsValue hend]
    simp only
    rw [if_neg (by rcases hclose with rfl | rfl <;> decide), if_pos trivial]
  | cons b as ih =>
    obtain ⟨bound, rfl⟩ := Nat.exists_eq_add_one_of_ne_zero (Nat.ne_of_gt (Nat.zero_lt_of_lt hbound))
    rw [List.foldlM_cons] at hfold
    obtain ⟨next, hs, hfold⟩ := Option.bind_eq_some_iff.mp hfold
    have hrest := ih (Nat.lt_of_succ_lt_succ hbound)
      (fun x hx => hitem x (List.mem_cons_of_mem _ hx)) hfold
    rw [Printer.separated, List.flatMap_cons, List.append_assoc, List.cons_append,
      List.cons_append, elements, hitem a List.mem_cons_self s next _ hs rfl]
    simp only [bind, Except.bind]
    rw [space_of_endsValue rfl]
    simp only
    rw [if_pos trivial]
    exact hrest

theorem container_separated (hclose : close = 0x5D ∨ close = 0x7D) (rest : Bytes)
    {as : List α} {bound : Nat} (hbound : as.length ≤ bound)
    (hopens : ∀ x ∈ as, opensValue (text x) = true)
    (hitem : ∀ x ∈ as, ReadsAs item text step x) (hfold : as.foldlM step s = some s') :
    container close item bound s (Printer.separated text as ++ close :: rest) =
      .ok (s', rest) := by
  cases as with
  | nil =>
    have hend : endsValue (close :: rest) = true := by rcases hclose with rfl | rfl <;> rfl
    have hs : s = s' := by simpa using hfold
    rw [Printer.separated, List.nil_append, container, space_of_endsValue hend, hs]
    exact if_pos rfl
  | cons a as =>
    have ha := hopens a List.mem_cons_self
    have hread := elements_separated hclose rest hbound hitem hfold
    rw [Printer.separated, List.append_assoc] at hread ⊢
    rw [container, space_of_opensValue ha]
    cases htext : text a with
    | nil =>
      rw [htext] at ha
      exact absurd ha Bool.false_ne_true
    | cons b more =>
      have hb : b ≠ close := by
        rw [htext, opensValue, Bool.and_eq_true] at ha
        rintro rfl
        rcases hclose with rfl | rfl <;> exact absurd ha.2 Bool.false_ne_true
      rw [htext] at hread
      rw [List.cons_append] at hread ⊢
      simp only
      rw [if_neg hb]
      exact hread

end Elements

/-- Collecting elements, the last one first. -/
theorem foldlM_cons_eq_reverse {α : Type} (as s : List α) :
    as.foldlM (fun s a => some (a :: s)) s = some (as.reverse ++ s) := by
  induction as generalizing s with
  | nil => rfl
  | cons a as ih =>
    rw [List.foldlM_cons, List.reverse_cons, List.append_assoc, List.singleton_append]
    exact ih (a :: s)

end Reader

end DebugAdapter.Json
