import DebugAdapter.Debuggee.Handles
import DebugAdapter.Debuggee.ThreadTable

/-! # Reading what was written

What handles and tables of threads hold after each of their operations, as far as it can be looked
up. -/

namespace DebugAdapter

theorem Ascending.lookup_cons {κ α : Type} [DecidableEq κ] (j : κ) (entry : κ × α)
    (rest : List (κ × α)) :
    (entry :: rest).lookup j = if j = entry.1 then some entry.2 else rest.lookup j := by
  obtain ⟨k, b⟩ := entry
  by_cases hj : j = k
  · rw [List.lookup_cons, if_pos hj, beq_iff_eq.mpr hj]
  · rw [List.lookup_cons, if_neg hj, beq_eq_false_iff_ne.mpr hj]

theorem Ascending.lookup_insert {κ α : Type} [LT κ] [DecidableLT κ] [DecidableEq κ]
    (key j : κ) (a : α) (entries : List (κ × α)) :
    (insert key a entries).lookup j = if j = key then some a else entries.lookup j := by
  fun_induction insert key a entries with
  | case1 | case2 => rw [lookup_cons]
  | case3 b rest _ =>
    rw [lookup_cons, lookup_cons]
    by_cases hj : j = key <;> simp only [hj, if_true, if_false]
  | case4 k b rest _ hne ih =>
    rw [lookup_cons, lookup_cons, ih]
    by_cases hj : j = k
    · have hkey : j ≠ key := fun h => hne (h.symm.trans hj)
      rw [if_pos hj, if_neg hkey, if_pos hj]
    · rw [if_neg hj, if_neg hj]

theorem Ascending.mem_insert {κ α : Type} [LT κ] [DecidableLT κ] [DecidableEq κ] {key : κ} {a : α}
    {entries : List (κ × α)} {entry : κ × α} (h : entry ∈ insert key a entries) :
    entry = (key, a) ∨ entry ∈ entries := by
  fun_induction insert key a entries with
  | case1 => exact .inl (List.mem_singleton.mp h)
  | case2 => exact List.mem_cons.mp h
  | case3 => exact (List.mem_cons.mp h).imp_right (List.mem_cons_of_mem _)
  | case4 k b rest _ _ ih =>
    rcases List.mem_cons.mp h with rfl | h
    · exact .inr List.mem_cons_self
    · exact (ih h).imp_right (List.mem_cons_of_mem _)

namespace Debuggee

namespace Handles

variable {α : Type}

theorem get?_eq (h : Handles α) (id : Int) :
    h.get? id = if 1 ≤ id then h.entries.toList[(id - 1).toNat]? else none := by
  unfold get?
  by_cases hid : 1 ≤ id
  · rw [if_neg (by omega), if_pos hid, Array.getElem?_toList]
  · rw [if_pos (by omega), if_neg hid]

theorem get?_natCast_succ (h : Handles α) (n : Nat) :
    h.get? ((n + 1 : Nat) : Int) = h.entries.toList[n]? := by
  rw [get?_eq, if_pos (by omega)]
  congr 1
  omega

end Handles

namespace ThreadTable

variable {α : Type}

theorem get?_retain (t : ThreadTable α) (thread other : Int64) (a : α) :
    (t.retain thread a).2.get? other = if other = thread then some a else t.get? other :=
  Ascending.lookup_insert thread other a t.entries

theorem get?_release (t : ThreadTable α) (thread other : Int64) :
    (t.release thread).2.get? other = if other = thread then none else t.get? other := by
  unfold get? release
  induction t.entries with
  | nil => exact (ite_self none).symm
  | cons entry rest ih =>
    dsimp only at ih ⊢
    rw [List.filter_cons, Ascending.lookup_cons]
    by_cases hentry : entry.1 = thread
    · rw [if_neg (by simp [hentry]), ih]
      by_cases hother : other = thread
      · rw [if_pos hother, if_pos hother]
      · rw [if_neg hother, if_neg hother, if_neg (fun h => hother (h.trans hentry))]
    · rw [if_pos (by simp [hentry]), Ascending.lookup_cons, ih]
      by_cases hother : other = entry.1
      · rw [if_pos hother, if_neg (fun h => hentry (hother.symm.trans h)), if_pos hother]
      · rw [if_neg hother, if_neg hother]

theorem mem_threads {t : ThreadTable α} {thread : Int64} :
    thread ∈ t.threads ↔ ∃ a, t.get? thread = some a := by
  unfold get? threads
  induction t.entries with
  | nil => simp
  | cons entry rest ih =>
    rw [List.map_cons, List.mem_cons, Ascending.lookup_cons, ih]
    by_cases hthread : thread = entry.1 <;> simp [hthread]

theorem mem_of_get? {t : ThreadTable α} {thread : Int64} {a : α} (h : t.get? thread = some a) :
    (thread, a) ∈ t.entries := by
  obtain ⟨before, after, hentries, -⟩ := List.lookup_eq_some_iff.mp h
  rw [hentries]
  exact List.mem_append_right _ List.mem_cons_self

theorem mem_retain {t : ThreadTable α} {thread : Int64} {a : α} {entry : Int64 × α}
    (h : entry ∈ (t.retain thread a).2.entries) : entry = (thread, a) ∨ entry ∈ t.entries :=
  Ascending.mem_insert h

theorem release_subset (t : ThreadTable α) (thread : Int64) :
    (t.release thread).2.entries ⊆ t.entries :=
  List.filter_sublist.subset

end ThreadTable

end Debuggee

end DebugAdapter
