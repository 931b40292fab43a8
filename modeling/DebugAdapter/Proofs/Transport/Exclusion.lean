import DebugAdapter.Transport.Stdio

/-! # The standard streams belong to one connection at a time

Connections are made from the standard streams again and again, and whoever has an old connection may
still close it or drop it, half by half and more than once. The flag that the streams are taken is shared
by all of them. It is up exactly while some connection has an open half, there is one such connection at
most, and nothing that is done with an old connection touches it. -/

namespace DebugAdapter.Transport

namespace StdioConnection

theorem holds_of_holds_without {c : StdioConnection} {half : Half}
    (h : (c.without half).holds = true) : c.holds = true := by
  cases half <;> simp_all [without, holds]

end StdioConnection

namespace Stdio

variable {s t : Stdio} {index i j : Nat} {c before after : StdioConnection} {half : Half}

/-! ## The connection that has the streams -/

/-- A connection has an open half. -/
def Held (s : Stdio) (i : Nat) : Prop := ∃ c, s.connections[i]? = some c ∧ c.holds = true

/-- One connection at most has an open half, and the flag tells whether there is one. -/
structure Exclusive (s : Stdio) : Prop where
  busy_iff : s.busy = true ↔ ∃ i, s.Held i
  unique : ∀ {i j}, s.Held i → s.Held j → i = j

theorem held_update (hbefore : s.connections[index]? = some before) :
    (s.update index before after).Held j ↔
      if j = index then after.holds = true else s.Held j := by
  have hlt : index < s.connections.length := (List.getElem?_eq_some_iff.mp hbefore).1
  by_cases hj : j = index
  · subst hj
    simp [Held, update, List.getElem?_set_self hlt]
  · simp [Held, update, List.getElem?_set_ne (Ne.symm hj), hj]

/-- A connection that loses open halves and gets none does not get the streams. -/
theorem held_of_held_update (hbefore : s.connections[index]? = some before)
    (hloses : after.holds = true → before.holds = true) (h : (s.update index before after).Held j) :
    s.Held j := by
  rw [held_update hbefore] at h
  split at h
  · rename_i heq
    exact heq ▸ ⟨before, hbefore, hloses h⟩
  · exact h

theorem exclusive_empty : Exclusive {} where
  busy_iff := by simp [Held]
  unique := by simp [Held]

/-- Streams that are free are given to a new connection, with both halves open. -/
theorem accept?_eq_some_iff : s.accept? = some t ↔
    s.busy = false ∧ t = ⟨true, s.connections ++ [({} : StdioConnection)]⟩ := by
  cases hbusy : s.busy <;> simp [accept?, hbusy, eq_comm]

theorem Exclusive.busy_eq_false_iff (h : s.Exclusive) : s.busy = false ↔ ∀ i, ¬ s.Held i := by
  rw [← Bool.not_eq_true, h.busy_iff, not_exists]

theorem Exclusive.accept (h : s.Exclusive) (haccept : s.accept? = some t) : t.Exclusive := by
  obtain ⟨hfree, rfl⟩ := accept?_eq_some_iff.mp haccept
  have hnone := h.busy_eq_false_iff.mp hfree
  have hlast : ∀ {i}, Held ⟨true, s.connections ++ [({} : StdioConnection)]⟩ i →
      i = s.connections.length := by
    rintro i ⟨c, hc, hholds⟩
    rcases Nat.lt_or_ge i s.connections.length with hlt | hge
    · rw [List.getElem?_append_left hlt] at hc
      exact absurd ⟨c, hc, hholds⟩ (hnone i)
    · have := (List.getElem?_eq_some_iff.mp hc).1
      simp only [List.length_append, List.length_singleton] at this
      omega
  exact ⟨by simpa using ⟨s.connections.length, {}, by simp, rfl⟩,
    fun hi hj => (hlast hi).trans (hlast hj).symm⟩

/-- A change by which a connection may lose its last open half, and gets none. -/
theorem Exclusive.update (h : s.Exclusive) (hbefore : s.connections[index]? = some before)
    (hloses : after.holds = true → before.holds = true) :
    (s.update index before after).Exclusive := by
  have hheld : ∀ {j}, (s.update index before after).Held j → s.Held j :=
    held_of_held_update hbefore hloses
  refine ⟨?_, fun hi hj => h.unique (hheld hi) (hheld hj)⟩
  have hbusy : (s.update index before after).busy = true ↔
      s.busy = true ∧ ¬ (before.holds = true ∧ after.holds = false) := by
    cases hs : s.busy <;> cases hb : before.holds <;> cases ha : after.holds <;>
      simp [Stdio.update, hs, hb, ha]
  rw [hbusy, h.busy_iff]
  constructor
  · rintro ⟨⟨i, hi⟩, hkept⟩
    refine ⟨i, (held_update hbefore).mpr ?_⟩
    split
    · rename_i heq
      obtain ⟨c, hc, hholds⟩ := hi
      obtain rfl : before = c := Option.some.inj (hbefore.symm.trans (heq ▸ hc))
      exact Bool.of_not_eq_false fun hfalse => hkept ⟨hholds, hfalse⟩
    · exact hi
  · rintro ⟨i, hi⟩
    refine ⟨⟨i, hheld hi⟩, fun ⟨hholds, hlost⟩ => ?_⟩
    have hindex : i = index := h.unique (hheld hi) ⟨before, hbefore, hholds⟩
    rw [held_update hbefore, if_pos hindex, hlost] at hi
    exact Bool.false_ne_true hi

/-! ## What may be done with the streams -/

/-- Something that is done with the standard streams or with a connection that was made of them. -/
inductive Deed where
  /-- Somebody asks for a connection and waits for it. -/
  | ask
  /-- Somebody who waits looks whether the streams are free, and then gets a connection. -/
  | look
  | close (index : Nat) (half : Half)
  | drop (index : Nat)
  | dropHalf (index : Nat) (half : Half)
  deriving DecidableEq, Repr

/-- The connection that something is done with. -/
def Deed.target? : Deed → Option Nat
  | ask | look => none
  | close index _ | drop index | dropHalf index _ => some index

/-- The streams, and how many wait for a connection. -/
structure Lobby where
  stdio : Stdio := {}
  waiting : Nat := 0
  deriving DecidableEq, Repr

namespace Lobby

/-- What is left after something is done. What cannot be done changes nothing. -/
def step (l : Lobby) : Deed → Lobby
  | .ask => { l with waiting := l.waiting + 1 }
  | .look =>
    match l.waiting, l.stdio.accept? with
    | waiting + 1, some stdio => ⟨stdio, waiting⟩
    | _, _ => l
  | .close index half => { l with stdio := ((l.stdio.close? index half).map (·.2)).getD l.stdio }
  | .drop index => { l with stdio := (l.stdio.drop? index).getD l.stdio }
  | .dropHalf index half => { l with stdio := (l.stdio.dropHalf? index half).getD l.stdio }

/-- What is left after many things are done, one after the other. -/
def run (deeds : List Deed) : Lobby := deeds.foldl step {}

end Lobby

/-! ## One step -/

/-- Whatever is done with a connection, it may lose open halves and gets none. -/
theorem step_target {deed : Deed} (l : Lobby) (htarget : deed.target? = some index) :
    (l.step deed).stdio = l.stdio ∨ ∃ before after, l.stdio.connections[index]? = some before ∧
      (after.holds = true → before.holds = true) ∧
      (l.step deed).stdio = l.stdio.update index before after := by
  cases deed with
  | ask | look => exact nomatch htarget
  | close index' half =>
    obtain rfl := Option.some.inj htarget
    cases hc : l.stdio.connections[index']? with
    | none => exact .inl (by simp [Lobby.step, close?, hc])
    | some c =>
      by_cases hopen : c.dropped = false ∧ c.isOpen half = true
      · refine .inr ⟨c, c.without half, rfl, StdioConnection.holds_of_holds_without, ?_⟩
        simp [Lobby.step, close?, hc, hopen]
      · refine .inl ?_
        simp only [Lobby.step, close?, hc]
        split
        · rfl
        · split
          · simp_all
          · rfl
  | drop index' =>
    obtain rfl := Option.some.inj htarget
    cases hc : l.stdio.connections[index']? with
    | none => exact .inl (by simp [Lobby.step, drop?, hc])
    | some c =>
      refine .inr ⟨c, ⟨false, false, true⟩, rfl, fun h => absurd h Bool.false_ne_true, ?_⟩
      simp [Lobby.step, drop?, hc]
  | dropHalf index' half =>
    obtain rfl := Option.some.inj htarget
    cases hc : l.stdio.connections[index']? with
    | none => exact .inl (by simp [Lobby.step, dropHalf?, hc])
    | some c =>
      refine .inr ⟨c, c.without half, rfl, StdioConnection.holds_of_holds_without, ?_⟩
      simp [Lobby.step, dropHalf?, hc]

/-- Who waits goes on waiting while a connection has the streams. -/
theorem Exclusive.step_look_of_held {l : Lobby} (h : l.stdio.Exclusive) (hi : l.stdio.Held i) :
    l.step .look = l := by
  have hbusy : l.stdio.accept? = none := if_pos (h.busy_iff.mpr ⟨i, hi⟩)
  simp [Lobby.step, hbusy]

theorem Exclusive.step {l : Lobby} (h : l.stdio.Exclusive) (deed : Deed) :
    (l.step deed).stdio.Exclusive := by
  cases htarget : deed.target? with
  | some index =>
    rcases step_target l htarget with hsame | ⟨before, after, hbefore, hloses, hupdate⟩
    · rwa [hsame]
    · rw [hupdate]
      exact h.update hbefore hloses
  | none =>
    cases deed with
    | close | drop | dropHalf => exact nomatch htarget
    | ask => exact h
    | look =>
      simp only [Lobby.step]
      split
      · rename_i haccept
        exact h.accept haccept
      · exact h

theorem exclusive_run (deeds : List Deed) : (Lobby.run deeds).stdio.Exclusive := by
  suffices h : ∀ l : Lobby, l.stdio.Exclusive → (deeds.foldl Lobby.step l).stdio.Exclusive from
    h {} exclusive_empty
  induction deeds with
  | nil => exact fun _ h => h
  | cons deed deeds ih => exact fun l h => ih _ (h.step deed)

/-- While a connection has the streams no other gets them. -/
theorem Exclusive.held_of_held_step {l : Lobby} (h : l.stdio.Exclusive) (hi : l.stdio.Held i)
    {deed : Deed} (hj : (l.step deed).stdio.Held j) : l.stdio.Held j := by
  cases htarget : deed.target? with
  | some index =>
    rcases step_target l htarget with hsame | ⟨before, after, hbefore, hloses, hupdate⟩
    · rwa [hsame] at hj
    · rw [hupdate] at hj
      exact held_of_held_update hbefore hloses hj
  | none =>
    cases deed with
    | close | drop | dropHalf => exact nomatch htarget
    | ask => exact hj
    | look => rwa [h.step_look_of_held hi] at hj

/-- Nothing that is done with a connection without open halves changes who has the streams. -/
theorem step_released {l : Lobby} {deed : Deed} (htarget : deed.target? = some index)
    (hreleased : ¬ l.stdio.Held index) :
    (l.step deed).stdio.busy = l.stdio.busy ∧ ¬ (l.step deed).stdio.Held index ∧
      ∀ j ≠ index, (l.step deed).stdio.connections[j]? = l.stdio.connections[j]? := by
  rcases step_target l htarget with hsame | ⟨before, after, hbefore, hloses, hupdate⟩
  · rw [hsame]
    exact ⟨rfl, hreleased, fun _ _ => rfl⟩
  · have hidle : before.holds = false :=
      Bool.eq_false_iff.mpr fun hholds => hreleased ⟨before, hbefore, hholds⟩
    rw [hupdate]
    refine ⟨by simp [Stdio.update, hidle], ?_, fun j hj => List.getElem?_set_ne (Ne.symm hj)⟩
    rw [held_update hbefore, if_pos rfl]
    exact fun hholds => Bool.false_ne_true (hidle.symm.trans (hloses hholds))

/-! ## Any number of steps -/

/-- How the streams are handed over. -/
structure Orderly (l : Lobby) : Prop where
  /-- One connection at most has an open half. -/
  unique : ∀ i j, l.stdio.Held i → l.stdio.Held j → i = j
  /-- Who waits gets a connection as soon as no connection has an open half. -/
  admitted : 0 < l.waiting → (∀ i, ¬ l.stdio.Held i) →
    l.step .look = ⟨⟨true, l.stdio.connections ++ [({} : StdioConnection)]⟩, l.waiting - 1⟩
  /-- Till then he waits. -/
  waits : ∀ i, l.stdio.Held i → l.step .look = l
  /-- An open half is closed, and nothing else. -/
  close_open : ∀ i c half, l.stdio.connections[i]? = some c → c.dropped = false →
    c.isOpen half = true → ∃ t, l.stdio.close? i half = some (.ok (), t) ∧
      t.connections = l.stdio.connections.set i (c.without half)
  /-- A half that is closed cannot be closed again. -/
  close_closed : ∀ i c half, l.stdio.connections[i]? = some c → c.dropped = false →
    c.isOpen half = false → l.stdio.close? i half = some (.error .notConnected, l.stdio)
  /-- A connection that is dropped has no open half any more, whatever was closed of it before, and
  nothing else is closed. -/
  drop_both : ∀ i c, l.stdio.connections[i]? = some c → ∃ t, l.stdio.drop? i = some t ∧
    t.connections = l.stdio.connections.set i ⟨false, false, true⟩ ∧ ¬ t.Held i
  /-- A half that is dropped by itself is closed, and nothing else. -/
  drop_half : ∀ i c half, l.stdio.connections[i]? = some c →
    ∃ t, l.stdio.dropHalf? i half = some t ∧
      t.connections = l.stdio.connections.set i (c.without half) ∧
      (t.Held i ↔ (c.without half).holds = true)
  /-- The streams become free when the connection that has them loses its last open half. -/
  freed_iff : ∀ deed i, l.stdio.Held i →
    ((l.step deed).stdio.busy = false ↔ ¬ (l.step deed).stdio.Held i)
  /-- What is done with a connection without open halves frees nothing, and it closes no half of
  another connection. -/
  released : ∀ deed i, deed.target? = some i → ¬ l.stdio.Held i →
    (l.step deed).stdio.busy = l.stdio.busy ∧ ¬ (l.step deed).stdio.Held i ∧
      ∀ j ≠ i, (l.step deed).stdio.connections[j]? = l.stdio.connections[j]?

/-- Whatever is done with the standard streams and with the connections that were made of them, in any
order and any number of times, the streams are handed over from one connection to the next. -/
theorem orderly_run (deeds : List Deed) : Orderly (Lobby.run deeds) := by
  have h := exclusive_run deeds
  generalize Lobby.run deeds = l at h ⊢
  refine ⟨fun _ _ => h.unique, ?admitted, ?waits, ?close_open, ?close_closed, ?drop_both, ?drop_half,
    ?freed_iff, fun _ _ => step_released⟩
  case admitted =>
    intro hwaiting hnone
    obtain ⟨waiting, hsucc⟩ := Nat.exists_eq_add_one_of_ne_zero (Nat.ne_of_gt hwaiting)
    have haccept := accept?_eq_some_iff.mpr ⟨h.busy_eq_false_iff.mpr hnone, rfl⟩
    simp [Lobby.step, hsucc, haccept]
  case waits => exact fun _ => h.step_look_of_held
  case close_open =>
    intro i c half hc hdropped hopen
    exact ⟨l.stdio.update i c (c.without half), by simp [close?, hc, hdropped, hopen], rfl⟩
  case close_closed =>
    intro i c half hc hdropped hclosed
    simp [close?, hc, hdropped, hclosed]
  case drop_both =>
    intro i c hc
    refine ⟨l.stdio.update i c ⟨false, false, true⟩, by simp [drop?, hc], rfl, ?_⟩
    rw [held_update hc, if_pos rfl]
    exact Bool.false_ne_true
  case drop_half =>
    intro i c half hc
    refine ⟨l.stdio.update i c (c.without half), by simp [dropHalf?, hc], rfl, ?_⟩
    rw [held_update hc, if_pos rfl]
  case freed_iff =>
    intro deed i hi
    rw [(h.step deed).busy_eq_false_iff]
    refine ⟨fun hnone => hnone i, fun hlost j hj => ?_⟩
    exact hlost (h.unique hi (h.held_of_held_step hi hj) ▸ hj)

/-- An old connection that is closed again and dropped leaves the streams to the one that has them. -/
example :
    let l := Lobby.run [.ask, .look, .ask, .look, .close 0 .reader, .close 0 .writer, .look,
      .close 0 .reader, .drop 0, .look]
    l.stdio.busy = true ∧ l.stdio.connections.map (·.holds) = [false, true] := by
  decide

end Stdio

end DebugAdapter.Transport
