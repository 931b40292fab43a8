import DebugAdapter.Proofs.Evaluation.Agenda

/-! # Tables that are emptied

At its end the session marks the context as done and empties the tables. What the pump puts into
the table after that it takes out again, because it looks at the context after it has recorded a
stop. -/

namespace DebugAdapter.Evaluation

open Debuggee Protocol Session

variable {s t : System}

namespace PumpTask

/-- The task may lead to a stop in the table. -/
def Fills : PumpTask → Prop
  | .listStopped | .findStop _ | .retain _ | .record _ _ _ _ _ => True
  | _ => False

/-- The task looks whether the session is over, or empties the table of stops. -/
def Clears : PumpTask → Prop
  | .announce _ | .purgeEvents => True
  | _ => False

end PumpTask

/-- Whatever the pump puts into the table, it looks at the context after that. -/
def Guarded : List PumpTask → Prop
  | [] => True
  | task :: rest => (task.Fills → ∃ next ∈ rest, next.Clears) ∧ Guarded rest

theorem guarded_append {tasks rest : List PumpTask} (hclears : ∃ next ∈ rest, next.Clears)
    (hrest : Guarded rest) : Guarded (tasks ++ rest) := by
  induction tasks with
  | nil => exact hrest
  | cons task tasks ih =>
    obtain ⟨next, hnext, hclear⟩ := hclears
    exact ⟨fun _ => ⟨next, List.mem_append_right _ hnext, hclear⟩, ih⟩

theorem guarded_planItem (item : Item) : Guarded (planItem item) := by
  cases item <;> simp [planItem, Guarded, PumpTask.Fills, PumpTask.Clears]

theorem guarded_pumpPerform (s : System) {rest : List PumpTask} {task : PumpTask}
    (h : Guarded (task :: rest)) : Guarded (s.pumpPerform rest task).pump := by
  obtain ⟨htask, hrest⟩ := h
  cases task with
  | send | cancel | purgeEvents | purgeFrames | purgeVariables | retain => exact hrest
  | listStopped => exact guarded_append (htask trivial) hrest
  | findStop thread =>
    rw [System.pumpPerform]
    dsimp only
    split
    · exact ⟨fun _ => htask trivial, hrest⟩
    · exact hrest
  | record report resume ids scopes frames =>
    cases frames with
    | nil => exact ⟨fun _ => htask trivial, hrest⟩
    | cons frame frames =>
      rw [System.pumpPerform]
      dsimp only
      split <;> exact ⟨fun _ => htask trivial, hrest⟩
  | announce report =>
    rw [System.pumpPerform]
    dsimp only
    split
    · exact ⟨False.elim, False.elim, False.elim, hrest⟩
    · exact ⟨False.elim, hrest⟩

theorem guarded_pump (h : Guarded s.pump) (hstep : s.pump? = some t) : Guarded t.pump := by
  cases System.pumpStep hstep with
  | performs hpump => exact guarded_pumpPerform s (hpump ▸ h)
  | takes => exact guarded_planItem _

/-- The session has emptied the table of stops for the last time, or never was open. -/
def Purged (s : System) : Prop :=
  s.session.state = .closed ∨ s.session.state = .terminating ∧ .purgeEvents ∉ s.session.work

/-- There are no stops in the table, or the pump is about to look whether the session is over. -/
def Emptied (s : System) : Prop :=
  s.registries.events.entries = [] ∨ ∃ task ∈ s.pump, task.Clears

/-- A session that is past its end has marked the context as done before, if an evaluation was ever
started. -/
theorem Purged.done (h : Purged s) (hagenda : Agenda s) :
    s.session.started = false ∨ s.cancelled = true := by
  rcases h with hclosed | ⟨hterminating, hpurged⟩
  · exact (hagenda.of_closed hclosed).2.2
  · obtain ⟨hwork, -, -, hcancelled⟩ := hagenda.of_terminating hterminating
    refine .inr (hcancelled.resolve_left fun hcancel => hpurged ?_)
    -- the table is emptied after the context is marked
    have hsuffix : ∀ work, work <:+ farewellTasks → .cancel ∈ work → .purgeEvents ∈ work := by
      simp [farewellTasks, List.suffix_cons_iff]
    exact hsuffix _ hwork hcancel

theorem suffix_pumpPerform (s : System) (rest : List PumpTask) (task : PumpTask) :
    rest <:+ (s.pumpPerform rest task).pump := by
  cases task with
  | send | cancel | purgeEvents | purgeFrames | purgeVariables | retain => exact List.suffix_rfl
  | listStopped => exact List.suffix_append _ _
  | findStop thread =>
    rw [System.pumpPerform]
    dsimp only
    split
    · exact List.suffix_cons _ _
    · exact List.suffix_rfl
  | record report resume ids scopes frames =>
    cases frames with
    | nil => exact List.suffix_cons _ _
    | cons frame frames =>
      rw [System.pumpPerform]
      dsimp only
      split <;> exact List.suffix_cons _ _
  | announce report =>
    rw [System.pumpPerform]
    dsimp only
    split
    · exact List.suffix_append [PumpTask.purgeEvents, .purgeFrames, .purgeVariables] _
    · exact List.suffix_cons _ _

/-- When the session is over, a stop that the pump still records is dropped again. -/
theorem emptied_pumpPerform {task : PumpTask} {rest : List PumpTask}
    (hguarded : Guarded (task :: rest)) (hcancelled : s.cancelled = true)
    (h : s.registries.events.entries = [] ∨ ∃ next ∈ task :: rest, next.Clears) :
    Emptied (s.pumpPerform rest task) := by
  have hlater : (∃ next ∈ rest, next.Clears) → Emptied (s.pumpPerform rest task) := by
    rintro ⟨next, hnext, hclears⟩
    exact .inr ⟨next, (suffix_pumpPerform s rest task).subset hnext, hclears⟩
  cases task with
  | purgeEvents => exact .inl rfl
  | announce report =>
    refine .inr ⟨.purgeEvents, ?_, trivial⟩
    rw [System.pumpPerform, hcancelled]
    exact List.mem_cons_self
  | listStopped | findStop | retain | record => exact hlater (hguarded.1 trivial)
  | send | cancel | purgeFrames | purgeVariables =>
    rcases h with hempty | ⟨next, hnext, hclears⟩
    · exact .inl hempty
    · rcases List.mem_cons.mp hnext with rfl | hnext
      · exact hclears.elim
      · exact hlater ⟨next, hnext, hclears⟩

theorem emptied_pump (hguarded : Guarded s.pump) (hcancelled : s.cancelled = true)
    (h : Emptied s) (hstep : s.pump? = some t) : Emptied t := by
  unfold Emptied at h
  cases System.pumpStep hstep with
  | performs hpump =>
    rw [hpump] at hguarded h
    exact emptied_pumpPerform hguarded hcancelled h
  | takes hpump =>
    rw [hpump] at h
    exact .inl (h.resolve_right fun ⟨_, hmem, _⟩ => absurd hmem List.not_mem_nil)

theorem not_purged_of_dispatching (h : s.session.state = .dispatching) : ¬Purged s := by
  rintro (hother | ⟨hother, -⟩) <;> exact nomatch hother.symm.trans h

theorem not_purged_of_farewell (hstate : s.session.state = .terminating)
    (hwork : .purgeEvents ∈ s.session.work) : ¬Purged s := by
  rintro (hother | ⟨-, hnot⟩)
  · exact nomatch hother.symm.trans hstate
  · exact hnot hwork

/-- A session that still works on messages has the farewell before it. -/
theorem not_purged_session (hagenda : Agenda s) (hstate : s.session.state = .dispatching)
    (hstep : s.session? = some t) : ¬Purged t := by
  rcases session_of_dispatching hagenda hstate hstep with hnext | ⟨hnext, hwork⟩
  · exact not_purged_of_dispatching hnext
  · refine not_purged_of_farewell hnext ?_
    rw [hwork]
    decide

/-- The session empties the table on its way to its end. -/
theorem emptied_session (hagenda : Agenda s) (hdormant : s.session.started = false → Dormant s)
    (h : Purged s → Emptied s) (hstep : s.session? = some t) (ht : Purged t) : Emptied t := by
  have hsame : t.registries.events = s.registries.events → Purged s → Emptied t := by
    intro hevents hs
    rw [Emptied, hevents, (System.keptBySession hstep).pump_eq]
    exact h hs
  cases hagenda with
  | unopened _ _ _ hstarted =>
    exact .inl (List.subset_nil.mp ((hdormant hstarted).events ▸ events_session hstep))
  | ready hstate hwork =>
    exact absurd ht (not_purged_session (.ready hstate hwork) hstate hstep)
  | busy hstate herrand hwork hstart =>
    exact absurd ht (not_purged_session (.busy hstate herrand hwork hstart) hstate hstep)
  | ended hstate hwork =>
    rw [System.session?, hwork] at hstep
    dsimp only at hstep
    rw [if_pos hstate] at hstep
    cases hstep
  | leaving hstate hsuffix hne =>
    obtain ⟨task, rest, hwork⟩ := List.exists_cons_of_ne_nil hne
    obtain rfl := Option.some.inj ((session_of_work hwork).1.symm.trans hstep)
    have hpast : .purgeEvents ∉ task :: rest → Purged s := fun hnot => .inr ⟨hstate, hwork ▸ hnot⟩
    rcases farewell_of_suffix (hwork ▸ hsuffix) with
      ⟨rfl, rfl⟩ | ⟨rfl, rfl⟩ | ⟨rfl, rfl⟩ | ⟨rfl, rfl⟩ | ⟨rfl, rfl⟩ | ⟨rfl, rfl⟩
    · obtain ⟨problems, hfarewell⟩ :=
        s.farewell_eq [.cancel, .purgeEvents, .purgeFrames, .purgeVariables, .close]
      have hmem : .purgeEvents ∈
          [Task.cancel, .purgeEvents, .purgeFrames, .purgeVariables, .close] := by decide
      rw [hfarewell] at ht
      exact absurd ht (not_purged_of_farewell hstate hmem)
    · have hmem : .purgeEvents ∈ [Task.purgeEvents, .purgeFrames, .purgeVariables, .close] := by
        decide
      exact absurd ht (not_purged_of_farewell hstate hmem)
    · exact .inl rfl
    · exact hsame rfl (hpast (by decide))
    · exact hsame rfl (hpast (by decide))
    · exact hsame (untouched_perform s [] (by trivial)).events_eq (hpast (by decide))

theorem emptied_move (hagenda : Agenda s) (hdormant : s.session.started = false → Dormant s)
    (hguarded : Guarded s.pump) (h : Purged s → Emptied s) {move : Move}
    (hmove : s.move? move = some t) (ht : Purged t) : Emptied t := by
  cases System.moved hmove with
  | session hstep => exact emptied_session hagenda hdormant h hstep ht
  | pump hstep =>
    rw [Purged, (System.keptByPump hstep).session_eq] at ht
    rcases Purged.done ht hagenda with hstarted | hcancelled
    · obtain ⟨-, hpump, hitems, -, -⟩ := hdormant hstarted
      cases System.pumpStep hstep with
      | performs hbusy => exact nomatch hpump.symm.trans hbusy
      | takes _ hqueue => exact nomatch hitems.symm.trans hqueue
    · exact emptied_pump hguarded hcancelled (h ht) hstep
  | engine hkept =>
    rw [Purged, hkept.session_eq] at ht
    rw [Emptied, hkept.registries_eq, hkept.pump_eq]
    exact h ht
  | client => exact h ht

end DebugAdapter.Evaluation
