import DebugAdapter.Proofs.Debuggee.Tables
import Mathlib.Data.List.DropRight

/-! # Handles over a whole history

Handles are asked for, looked up, counted and dropped in any order and by anybody, one call after
the other. What each call is answered can be told from the calls before it, as far back as the last
time all handles were dropped: the values that were added since then are behind the numbers from
one upwards, and nothing is behind any other number. -/

namespace DebugAdapter.Debuggee

/-- What is done with handles. -/
inductive Call (α : Type) where
  | add (a : α)
  /-- A handle is looked up. Any number may be given for one. -/
  | get (id : Int)
  | purge
  | size

/-- What comes of a call. -/
inductive Reply (α : Type) where
  | handle (n : Nat)
  | found (a : Option α)
  | purged
  | count (n : Nat)

variable {α : Type}

namespace Handles

/-- No handle was given out yet. -/
abbrev fresh : Handles α := {}

/-- A call, with what comes of it. -/
def perform (h : Handles α) : Call α → Reply α × Handles α
  | .add a => (.handle (h.add a).1, (h.add a).2)
  | .get id => (.found (h.get? id), h)
  | .purge => (.purged, h.purge)
  | .size => (.count h.size, h)

/-- The handles after some calls. -/
def after (h : Handles α) : List (Call α) → Handles α
  | [] => h
  | call :: calls => (h.perform call).2.after calls

/-- What comes of calls, one after the other. -/
def replies (h : Handles α) : List (Call α) → List (Reply α)
  | [] => []
  | call :: calls => (h.perform call).1 :: (h.perform call).2.replies calls

theorem after_append (h : Handles α) (before later : List (Call α)) :
    h.after (before ++ later) = (h.after before).after later := by
  induction before generalizing h with
  | nil => rfl
  | cons call before ih => exact ih _

theorem length_replies (h : Handles α) (calls : List (Call α)) :
    (h.replies calls).length = calls.length := by
  induction calls generalizing h with
  | nil => rfl
  | cons call calls ih => rw [replies, List.length_cons, ih, List.length_cons]

/-- A call is answered from what the calls before it have left. -/
theorem getElem?_replies (h : Handles α) (before : List (Call α)) (call : Call α)
    (later : List (Call α)) :
    (h.replies (before ++ call :: later))[before.length]? =
      some ((h.after before).perform call).1 := by
  induction before generalizing h with
  | nil => rfl
  | cons first before ih =>
    rw [List.cons_append, replies, List.length_cons, List.getElem?_cons_succ, ih]
    rfl

end Handles

/-! ## What was added -/

/-- The call drops all handles. -/
def Call.drops : Call α → Bool
  | .purge => true
  | _ => false

/-- The value that a call adds. -/
def Call.value? : Call α → Option α
  | .add a => some a
  | _ => none

/-- The values that were added since the last purge, the earliest one first. -/
def added (calls : List (Call α)) : List α :=
  (calls.rtakeWhile fun call => !call.drops).filterMap Call.value?

theorem added_concat (calls : List (Call α)) (call : Call α) :
    added (calls ++ [call]) = if call.drops then [] else added calls ++ call.value?.toList := by
  rw [added, List.rtakeWhile_concat]
  cases call <;> simp [added, Call.drops, Call.value?]

theorem toList_after (calls : List (Call α)) :
    ((Handles.fresh : Handles α).after calls).entries.toList = added calls := by
  induction calls using List.reverseRecOn with
  | nil => rfl
  | append_singleton calls call ih =>
    rw [Handles.after_append, added_concat, ← ih]
    cases call with
    | add a => exact Array.toList_push
    | purge => rfl
    | get | size => exact (List.append_nil _).symm

theorem drops_iff {call : Call α} : call.drops = true ↔ call = .purge := by
  cases call <;> simp [Call.drops]

theorem added_append {later : List (Call α)} (h : .purge ∉ later) (before : List (Call α)) :
    added (before ++ later) = added before ++ later.filterMap Call.value? := by
  induction later using List.reverseRecOn with
  | nil => simp
  | append_singleton later call ih =>
    rw [List.mem_append, List.mem_singleton, not_or] at h
    rw [← List.append_assoc, added_concat, if_neg (by rw [drops_iff]; exact Ne.symm h.2), ih h.1,
      List.filterMap_append, List.append_assoc]
    cases call <;> rfl

/-- Nothing that was added before a purge is left. -/
theorem added_purge (before later : List (Call α)) :
    added (before ++ .purge :: later) = added later := by
  induction later using List.reverseRecOn with
  | nil => exact added_concat before .purge
  | append_singleton later call ih =>
    rw [← List.cons_append, ← List.append_assoc, added_concat, added_concat, ih]

/-- The calls end with a value that was added, and with others that leave it. -/
theorem exists_add_concat {calls : List (Call α)} {call : Call α} {v : α}
    {P : List (Call α) → Prop} :
    (∃ earlier later, calls ++ [call] = earlier ++ .add v :: later ∧ .purge ∉ later ∧ P earlier) ↔
      call = .add v ∧ P calls ∨ call ≠ .purge ∧
        ∃ earlier later, calls = earlier ++ .add v :: later ∧ .purge ∉ later ∧ P earlier := by
  constructor
  · rintro ⟨earlier, later, hcalls, hlater, hearlier⟩
    rcases List.eq_nil_or_concat' later with rfl | ⟨later, last, rfl⟩
    · obtain ⟨rfl, hcall⟩ := List.append_inj' hcalls rfl
      exact .inl ⟨List.head_eq_of_cons_eq hcall, hearlier⟩
    · rw [← List.cons_append, ← List.append_assoc] at hcalls
      obtain ⟨rfl, hcall⟩ := List.append_inj' hcalls rfl
      obtain rfl := List.head_eq_of_cons_eq hcall
      rw [List.mem_append, List.mem_singleton, not_or] at hlater
      exact .inr ⟨Ne.symm hlater.2, earlier, later, rfl, hlater.1, hearlier⟩
  · rintro (⟨rfl, hcalls⟩ | ⟨hcall, earlier, later, rfl, hlater, hearlier⟩)
    · exact ⟨calls, [], rfl, List.not_mem_nil, hcalls⟩
    · refine ⟨earlier, later ++ [call], by simp, ?_, hearlier⟩
      rw [List.mem_append, List.mem_singleton, not_or]
      exact ⟨hlater, Ne.symm hcall⟩

/-- A value is in its place because it was added when there were that many before it. -/
theorem getElem?_added {calls : List (Call α)} {n : Nat} {v : α} :
    (added calls)[n]? = some v ↔ ∃ earlier later, calls = earlier ++ .add v :: later ∧
      .purge ∉ later ∧ (added earlier).length = n := by
  induction calls using List.reverseRecOn with
  | nil => simp [added]
  | append_singleton calls call ih =>
    rw [exists_add_concat, ← ih, added_concat]
    cases call with
    | purge => simp [Call.drops]
    | get | size => simp [Call.drops, Call.value?]
    | add a =>
      rw [if_neg (by simp [Call.drops]), Call.value?, Option.toList_some]
      rcases Nat.lt_trichotomy n (added calls).length with hlt | rfl | hgt
      · rw [List.getElem?_append_left hlt]
        simp [Nat.ne_of_gt hlt]
      · simp
      · rw [List.getElem?_append_right (Nat.le_of_lt hgt), List.getElem?_eq_none (Nat.le_of_lt hgt)]
        have hne : n - (added calls).length ≠ 0 := by omega
        simp [hne, Nat.ne_of_lt hgt]

/-! ## The laws -/

/-- The value was added by a call that was answered with this number, and nothing was dropped
since. -/
def Issued (calls : List (Call α)) (replies : List (Reply α)) (n : Nat) (v : α) : Prop :=
  ∃ earlier later, calls = earlier ++ .add v :: later ∧ .purge ∉ later ∧
    replies[earlier.length]? = some (.handle n)

/-- The answers to a history of calls are those of handles. -/
structure Lawful (calls : List (Call α)) (replies : List (Reply α)) : Prop where
  length_eq : replies.length = calls.length
  /-- An added value gets the number after those that were added since the last purge. -/
  add : ∀ before v later, calls = before ++ .add v :: later →
    replies[before.length]? = some (.handle ((added before).length + 1))
  /-- A number stands for the value that was added under it since the last purge. -/
  get : ∀ before (id : Int) later, calls = before ++ .get id :: later →
    ∃ found, replies[before.length]? = some (.found found) ∧
      ∀ v, found = some v ↔ ∃ n : Nat, Issued before replies n v ∧ (n : Int) = id
  size : ∀ before later, calls = before ++ .size :: later →
    replies[before.length]? = some (.count (added before).length)
  purge : ∀ before later, calls = before ++ .purge :: later →
    replies[before.length]? = some .purged
  /-- Handles that are valid at a time are different. -/
  distinct : ∀ before v between w later, calls = before ++ .add v :: (between ++ .add w :: later) →
    .purge ∉ between →
      replies[before.length]? ≠ replies[(before ++ .add v :: between).length]?
  /-- After a purge a number stands for nothing until it is given out again. -/
  stale : ∀ before between (id : Int) later, calls = before ++ .purge :: (between ++ .get id :: later) →
    (∀ earlier v rest, between = earlier ++ .add v :: rest → ∀ n : Nat, (n : Int) = id →
      replies[(before ++ .purge :: earlier).length]? ≠ some (.handle n)) →
        replies[(before ++ .purge :: between).length]? = some (.found none)
  /-- Only the numbers from one to the number of valid handles stand for something. -/
  bounds : ∀ before (id : Int) later, calls = before ++ .get id :: later →
    (replies[before.length]? = some (.found none) ↔
      id < 1 ∨ ((added before).length : Int) < id)

namespace Handles

variable {before later : List (Call α)}

theorem replies_add (before : List (Call α)) (v : α) (later : List (Call α)) :
    (fresh.replies (before ++ .add v :: later))[before.length]? =
      some (.handle ((added before).length + 1)) := by
  rw [getElem?_replies, ← toList_after, Array.length_toList]
  rfl

theorem replies_size (before later : List (Call α)) :
    (fresh.replies (before ++ .size :: later))[before.length]? =
      some (.count (added before).length) := by
  rw [getElem?_replies, ← toList_after, Array.length_toList]
  rfl

theorem replies_get (before : List (Call α)) (id : Int) (later : List (Call α)) :
    (fresh.replies (before ++ .get id :: later))[before.length]? =
      some (.found (if 1 ≤ id then (added before)[(id - 1).toNat]? else none)) := by
  rw [getElem?_replies, ← toList_after, ← get?_eq]
  rfl

theorem issued_iff {n : Nat} {v : α} :
    Issued before (fresh.replies (before ++ later)) n v ↔
      ∃ m, n = m + 1 ∧ (added before)[m]? = some v := by
  have hreply : ∀ earlier rest, before = earlier ++ .add v :: rest →
      (fresh.replies (before ++ later))[earlier.length]? =
        some (.handle ((added earlier).length + 1)) := by
    rintro earlier rest rfl
    rw [List.append_assoc, List.cons_append, replies_add]
  simp only [getElem?_added]
  constructor
  · rintro ⟨earlier, rest, hbefore, hrest, hn⟩
    rw [hreply earlier rest hbefore, Option.some.injEq, Reply.handle.injEq] at hn
    exact ⟨_, hn.symm, earlier, rest, hbefore, hrest, rfl⟩
  · rintro ⟨m, rfl, earlier, rest, hbefore, hrest, rfl⟩
    exact ⟨earlier, rest, hbefore, hrest, hreply earlier rest hbefore⟩

theorem get_law (before : List (Call α)) (id : Int) (later : List (Call α)) :
    ∃ found, (fresh.replies (before ++ .get id :: later))[before.length]? = some (.found found) ∧
      ∀ v, found = some v ↔
        ∃ n : Nat, Issued before (fresh.replies (before ++ .get id :: later)) n v ∧ (n : Int) = id := by
  refine ⟨_, replies_get before id later, fun v => ?_⟩
  simp only [issued_iff]
  constructor
  · intro hfound
    rw [Option.ite_none_right_eq_some] at hfound
    exact ⟨_, ⟨_, rfl, hfound.2⟩, by omega⟩
  · rintro ⟨n, ⟨m, rfl, hm⟩, rfl⟩
    rw [if_pos (by omega), ← hm]
    congr 1
    omega

theorem replies_distinct {between : List (Call α)} (v w : α) (hbetween : .purge ∉ between) :
    let replies := fresh.replies (before ++ .add v :: (between ++ .add w :: later))
    replies[before.length]? ≠ replies[(before ++ .add v :: between).length]? := by
  intro replies heq
  have hfirst : replies[before.length]? = some (.handle ((added before).length + 1)) :=
    replies_add _ _ _
  have hsecond : replies[(before ++ .add v :: between).length]? =
      some (.handle ((added (before ++ .add v :: between)).length + 1)) := by
    rw [← replies_add _ w later, List.append_assoc, List.cons_append]
  have hmore : (added before).length < (added (before ++ .add v :: between)).length := by
    rw [added_append (by simpa using hbetween), List.length_append]
    simp [Call.value?]
  rw [hfirst, hsecond, Option.some.injEq, Reply.handle.injEq] at heq
  omega

theorem replies_stale {between : List (Call α)} (id : Int)
    (hnew : ∀ earlier v rest, between = earlier ++ .add v :: rest → ∀ n : Nat, (n : Int) = id →
      (fresh.replies (before ++ .purge :: (between ++ .get id :: later)))[
        (before ++ .purge :: earlier).length]? ≠ some (.handle n)) :
    (fresh.replies (before ++ .purge :: (between ++ .get id :: later)))[
      (before ++ .purge :: between).length]? = some (.found none) := by
  have hsplit : before ++ .purge :: (between ++ .get id :: later) =
      (before ++ .purge :: between) ++ .get id :: later := by
    rw [List.append_assoc, List.cons_append]
  rw [hsplit] at hnew ⊢
  rw [replies_get, added_purge, Option.some.injEq, Reply.found.injEq, ite_eq_right_iff]
  intro hid
  cases hv : (added between)[(id - 1).toNat]? with
  | none => rfl
  | some v =>
    obtain ⟨earlier, rest, rfl, -, hcount⟩ := getElem?_added.mp hv
    have hreply := replies_add (before ++ .purge :: earlier) v (rest ++ .get id :: later)
    rw [added_purge, hcount] at hreply
    refine absurd ?_ (hnew earlier v rest rfl ((id - 1).toNat + 1) (by omega))
    rw [← hreply]
    simp only [List.append_assoc, List.cons_append]

theorem replies_bounds (before : List (Call α)) (id : Int) (later : List (Call α)) :
    (fresh.replies (before ++ .get id :: later))[before.length]? = some (.found none) ↔
      id < 1 ∨ ((added before).length : Int) < id := by
  rw [replies_get, Option.some.injEq, Reply.found.injEq]
  by_cases hid : 1 ≤ id
  · rw [if_pos hid, List.getElem?_eq_none_iff]
    omega
  · rw [if_neg hid]
    exact iff_of_true rfl (.inl (by omega))

/-- Whatever is done with handles and in whatever order, every call is answered as the laws say. -/
theorem lawful_replies (calls : List (Call α)) : Lawful calls (fresh.replies calls) where
  length_eq := length_replies fresh calls
  add := by
    rintro before v later rfl
    exact replies_add before v later
  get := by
    rintro before id later rfl
    exact get_law before id later
  size := by
    rintro before later rfl
    exact replies_size before later
  purge := by
    rintro before later rfl
    exact getElem?_replies fresh before .purge later
  distinct := by
    rintro before v between w later rfl hbetween
    exact replies_distinct v w hbetween
  stale := by
    rintro before between id later rfl hnew
    exact replies_stale id hnew
  bounds := by
    rintro before id later rfl
    exact replies_bounds before id later

example : fresh.replies [.add "a", .add "b", .purge, .get 2, .add "c", .get 1, .get (-1), .size] =
    [.handle 1, .handle 2, .purged, .found none, .handle 1, .found (some "c"), .found none,
      .count 1] := rfl

end Handles

end DebugAdapter.Debuggee
