/-! # Association lists in ascending order

Lists of keys and values in which every key is less than the next one. Such a list is
determined by what its keys stand for. -/

namespace DebugAdapter.Ascending

variable {κ α : Type} [LT κ] [DecidableLT κ] [DecidableEq κ]

/-- Whether every key is less than the next one. -/
def isAscending : List (κ × α) → Bool
  | [] => true
  | [_] => true
  | (k, _) :: (l, b) :: rest => decide (k < l) && isAscending ((l, b) :: rest)

/-- A value put at its place, instead of the one with the same key. -/
def insert (key : κ) (a : α) : List (κ × α) → List (κ × α)
  | [] => [(key, a)]
  | (k, b) :: rest =>
    if key < k then (key, a) :: (k, b) :: rest
    else if key = k then (key, a) :: rest
    else (k, b) :: insert key a rest

theorem isAscending_insert (total : ∀ j k : κ, j < k ∨ j = k ∨ k < j) {key : κ} {a : α}
    {entries : List (κ × α)} (h : isAscending entries = true) :
    isAscending (insert key a entries) = true := by
  fun_induction insert key a entries with
  | case1 => rfl
  | case2 k w rest hk => simp [isAscending, hk, h]
  | case3 w rest hk =>
    cases rest with
    | nil => rfl
    | cons m rest => simpa [isAscending] using h
  | case4 k w rest hk hne ih =>
    have hlt : k < key := by
      rcases total k key with h | h | h
      · exact h
      · exact absurd h.symm hne
      · exact absurd h hk
    cases rest with
    | nil => simp [insert, isAscending, hlt]
    | cons m rest =>
      obtain ⟨l, u⟩ := m
      simp only [isAscending, Bool.and_eq_true, decide_eq_true_eq] at h
      have ih := ih h.2
      simp only [insert] at ih ⊢
      split
      · simp_all [isAscending]
      · split <;> simp_all [isAscending]

end DebugAdapter.Ascending
