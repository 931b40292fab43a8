import DebugAdapter.Text.Blank

/-! # What trimming leaves

A text is trimmed to the one part of it that neither begins nor ends with a blank character and has
only blank ones around it. -/

namespace DebugAdapter.Text

/-- A text with blank characters around it, and none at either end of its own. -/
structure Trimmed (text core : List Char) : Prop where
  around : ∃ before after, text = before ++ core ++ after ∧
    (∀ c ∈ before, isBlank c = true) ∧ ∀ c ∈ after, isBlank c = true
  first : ∀ c ∈ core.head?, isBlank c = false
  last : ∀ c ∈ core.getLast?, isBlank c = false

theorem dropWhile_append_eq {before rest : List Char} (hbefore : ∀ c ∈ before, isBlank c = true)
    (hrest : ∀ c ∈ rest.head?, isBlank c = false) :
    (before ++ rest).dropWhile isBlank = rest := by
  rw [List.dropWhile_append_of_pos hbefore]
  cases rest with
  | nil => rfl
  | cons c rest => simp [hrest c rfl]

theorem not_blank_of_dropWhile (text : List Char) :
    ∀ c ∈ (text.dropWhile isBlank).head?, isBlank c = false := by
  induction text with
  | nil => simp
  | cons c rest ih =>
    by_cases hc : isBlank c = true
    · rwa [List.dropWhile_cons_of_pos hc]
    · simp [hc]

theorem blank_of_takeWhile (text : List Char) : ∀ c ∈ text.takeWhile isBlank, isBlank c = true :=
  fun _ hc => List.all_eq_true.mp List.all_takeWhile _ hc

theorem trimmed_trim (text : List Char) : Trimmed text (trim text) := by
  let rest := text.dropWhile isBlank
  have hrest : rest = trim text ++ (rest.reverse.takeWhile isBlank).reverse := by
    rw [trim, ← List.reverse_append, List.takeWhile_append_dropWhile, List.reverse_reverse]
  constructor
  · refine ⟨text.takeWhile isBlank, (rest.reverse.takeWhile isBlank).reverse, ?_,
      blank_of_takeWhile text, ?_⟩
    · rw [List.append_assoc, ← hrest, List.takeWhile_append_dropWhile]
    · intro c hc
      exact blank_of_takeWhile _ c (List.mem_reverse.mp hc)
  · intro c hc
    refine not_blank_of_dropWhile text c ?_
    change c ∈ rest.head?
    rw [hrest, List.head?_append, Option.mem_def.mp hc]
    rfl
  · intro c hc
    rw [trim, List.getLast?_reverse] at hc
    exact not_blank_of_dropWhile _ c hc

theorem Trimmed.trim_eq {text core : List Char} (h : Trimmed text core) : trim text = core := by
  obtain ⟨⟨before, after, rfl, hbefore, hafter⟩, hfirst, hlast⟩ := h
  have hafter' : ∀ c ∈ after.reverse, isBlank c = true := by simpa using hafter
  have hlast' : ∀ c ∈ core.reverse.head?, isBlank c = false := by simpa using hlast
  cases core with
  | nil =>
    have hall : ∀ c ∈ before ++ after, isBlank c = true := by
      intro c hc
      exact (List.mem_append.mp hc).elim (hbefore c) (hafter c)
    have hnothing := @dropWhile_append_eq _ [] hall (by simp)
    rw [List.append_nil] at hnothing
    simp [trim, hnothing]
  | cons c rest =>
    have hfirst' : ∀ d ∈ (c :: rest ++ after).head?, isBlank d = false := hfirst
    rw [trim, List.append_assoc, dropWhile_append_eq hbefore hfirst', List.reverse_append,
      dropWhile_append_eq hafter' hlast', List.reverse_reverse]

/-- There is nothing left to trim. -/
theorem Trimmed.self {text core : List Char} (h : Trimmed text core) : Trimmed core core :=
  ⟨⟨[], [], by simp, by simp, by simp⟩, h.first, h.last⟩

/-- There is one way to trim a text. -/
theorem trimmed_iff {text core : List Char} : Trimmed text core ↔ trim text = core :=
  ⟨Trimmed.trim_eq, fun h => h ▸ trimmed_trim text⟩

end DebugAdapter.Text
