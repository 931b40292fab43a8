import DebugAdapter.Proofs.Evaluation.Agenda.Attending

/-! # What the session has to do

There is nothing to do, or the rest of an errand for one message with the verdict on it at the end,
or the rest of the farewell. From the shape follows which message is the last one. -/

namespace DebugAdapter.Evaluation

open Debuggee Protocol Session

variable {s t : System}

/-- When the message was taken up the evaluation was started as it is now, unless it was started for
this very message. -/
def Punctual (started : Bool) (tasks : List Task) (wasStarted : Bool) (flow : Flow) : Prop :=
  (.start ∈ tasks → flow = .proceed) ∧
    (wasStarted = started ∨ tasks = [] ∧ flow = .proceed ∧ wasStarted = false ∧ started = true)

/-- What a session has to do, from its beginning to its end. -/
inductive Agenda (s : System) : Prop where
  | unopened (hstate : s.session.state = .created ∨ s.session.state = .opening)
      (hwork : s.session.work = [] ∨ s.session.work = [.close]) (hheld : s.session.held = none)
      (hstarted : s.session.started = false)
  | ready (hstate : s.session.state = .dispatching) (hwork : s.session.work = [])
  | busy {thread : Option Int64} {tasks : List Task} {wasStarted : Bool} {flow : Flow}
      (hstate : s.session.state = .dispatching) (herrand : Errand thread tasks)
      (hwork : s.session.work = tasks ++ [.decide wasStarted flow])
      (hstart : Punctual s.session.started tasks wasStarted flow)
  | leaving (hstate : s.session.state = .terminating) (hwork : s.session.work <:+ farewellTasks)
      (hne : s.session.work ≠ []) (hheld : s.session.held = none)
      (hcancelled : .cancel ∈ s.session.work ∨ s.cancelled = true)
  | ended (hstate : s.session.state = .closed) (hwork : s.session.work = [])
      (hheld : s.session.held = none)
      (hcancelled : s.session.started = false ∨ s.cancelled = true)

theorem farewell_of_suffix {task : Task} {rest : List Task} (h : task :: rest <:+ farewellTasks) :
    (task = .farewell ∧ rest = [.cancel, .purgeEvents, .purgeFrames, .purgeVariables, .close]) ∨
      (task = .cancel ∧ rest = [.purgeEvents, .purgeFrames, .purgeVariables, .close]) ∨
      (task = .purgeEvents ∧ rest = [.purgeFrames, .purgeVariables, .close]) ∨
      (task = .purgeFrames ∧ rest = [.purgeVariables, .close]) ∨
      (task = .purgeVariables ∧ rest = [.close]) ∨ (task = .close ∧ rest = []) := by
  simpa [farewellTasks, List.suffix_cons_iff] using h

theorem Agenda.of_leaves (hstate : s.session.state = .terminating)
    (hwork : s.session.work = farewellTasks) (hheld : s.session.held = none) : Agenda s := by
  have hne : s.session.work ≠ [] := by
    rw [hwork]
    decide
  have hcancel : .cancel ∈ s.session.work := by
    rw [hwork]
    decide
  exact .leaving hstate (hwork ▸ List.suffix_rfl) hne hheld (.inl hcancel)

theorem Agenda.heard {more : List Happening} (h : Agenda s) (hwork : s.session.work = [])
    (hopen : s.session.state ≠ .closed) (hattends : Attends s more t) (hsame : Untouched s t) :
    Agenda t := by
  cases hattends with
  | @takesUp m _ hstate hnext hplan =>
    obtain ⟨tasks, flow, hplanned, herrand, hstart⟩ := planMessage_eq s.session.started m
    exact .busy hnext herrand (hplan.trans hplanned)
      ⟨fun hmem => (hstart hmem).1, .inl hsame.started_eq.symm⟩
  | opens hstate hnext hsameWork => exact .ready hnext (hsameWork.trans hwork)
  | leaves hstate hnext hfarewell hheld => exact .of_leaves hnext hfarewell hheld
  | givesUp hstate hnext hclose hheld =>
    cases h with
    | unopened hbefore _ _ hstarted =>
      refine .unopened (.inr ?_) (.inr hclose) hheld (hsame.started_eq.trans hstarted)
      rcases hbefore with hbefore | hbefore <;> rw [hnext, hbefore] <;> rfl
    | ready hready => exact absurd hready hstate
    | busy hbusy => exact absurd hbusy hstate
    | leaving _ _ hne => exact absurd hwork hne
    | ended hover => exact absurd hover hopen

/-- The evaluation is not started by the way. -/
theorem started_perform (s : System) (rest : List Task) {task : Task} (h : task ≠ .start) :
    (s.perform rest task).session.started = s.session.started := by
  cases task with
  | start => exact absurd rfl h
  | cancel | purgeEvents | resume => rfl
  | release =>
    rw [System.perform]
    split <;> rfl
  | send | fail | findStop | findFrames | findScopes | findVariables | purgeFrames |
    purgeVariables | decide | farewell | close =>
    exact (untouched_perform s rest (by trivial)).started_eq

theorem perform_decide {wasStarted : Bool} {flow : Flow} (hstate : s.session.state = .dispatching) :
    ((s.perform [] (.decide wasStarted flow)).session.state = .dispatching ∧
        (s.perform [] (.decide wasStarted flow)).session.work = []) ∨
      (s.perform [] (.decide wasStarted flow)).session.state = .terminating ∧
        (s.perform [] (.decide wasStarted flow)).session.work = farewellTasks ∧
        (s.perform [] (.decide wasStarted flow)).session.held = none := by
  rw [System.perform]
  dsimp only
  split
  · exact .inr (endWith_of_dispatching
      (s := { s with session := { s.session with work := [], held := none } }) (.ok ()) hstate)
  · exact .inl ⟨hstate, rfl⟩

theorem Agenda.decided {wasStarted : Bool} {flow : Flow} (hstate : s.session.state = .dispatching) :
    Agenda (s.perform [] (.decide wasStarted flow)) := by
  rcases perform_decide hstate with ⟨hnext, hwork⟩ | ⟨hnext, hfarewell, hheld⟩
  · exact .ready hnext hwork
  · exact .of_leaves hnext hfarewell hheld

theorem Agenda.proceeded {wasStarted : Bool} {flow : Flow} {thread : Option Int64} {task : Task}
    {tasks : List Task} (hstate : s.session.state = .dispatching)
    (herrand : Errand thread (task :: tasks))
    (hstart : Punctual s.session.started (task :: tasks) wasStarted flow) :
    Agenda (s.perform (tasks ++ [Task.decide wasStarted flow]) task) := by
  obtain ⟨hflow, hwas⟩ := hstart
  have hsame : wasStarted = s.session.started :=
    hwas.resolve_right fun h => List.cons_ne_nil _ _ h.1
  by_cases htask : task = .start
  · subst htask
    have hproceed := hflow List.mem_cons_self
    cases herrand with
    | look h => exact h.elim
    | passing h => exact h.elim
    | start =>
      rcases perform_start s [.decide wasStarted flow] with ⟨h, -⟩ | ⟨hnot, -, h⟩ <;>
        rw [List.nil_append, h]
      · exact .busy hstate .nil rfl ⟨fun hmem => absurd hmem List.not_mem_nil, .inl hsame⟩
      · exact .busy hstate .nil rfl ⟨fun hmem => absurd hmem List.not_mem_nil,
          .inr ⟨rfl, hproceed, hsame.trans hnot, rfl⟩⟩
  · have hproceeds : Proceeds wasStarted flow (task :: tasks)
        (s.perform (tasks ++ [Task.decide wasStarted flow]) task) := proceeds_perform hstate herrand
    cases hproceeds with
    | leaves hnext hfarewell hheld => exact .of_leaves hnext hfarewell hheld
    | goesOn hnext hleft hwork hmore =>
      refine .busy hnext hleft hwork ⟨fun h => hflow (hmore h), .inl ?_⟩
      rw [started_perform s _ htask]
      exact hsame

theorem Agenda.left {task : Task} {rest : List Task} (hstate : s.session.state = .terminating)
    (hwork : task :: rest <:+ farewellTasks) (hheld : s.session.held = none)
    (hcancelled : .cancel ∈ task :: rest ∨ s.cancelled = true) : Agenda (s.perform rest task) := by
  have hrest : rest <:+ farewellTasks := (List.suffix_cons task rest).trans hwork
  rcases farewell_of_suffix hwork with
    ⟨rfl, rfl⟩ | ⟨rfl, rfl⟩ | ⟨rfl, rfl⟩ | ⟨rfl, rfl⟩ | ⟨rfl, rfl⟩ | ⟨rfl, rfl⟩
  · obtain ⟨problems, hfarewell⟩ :=
      s.farewell_eq [.cancel, .purgeEvents, .purgeFrames, .purgeVariables, .close]
    rw [hfarewell]
    exact .leaving hstate hrest (List.cons_ne_nil _ _) hheld (.inl List.mem_cons_self)
  · exact .leaving hstate hrest (List.cons_ne_nil _ _) hheld (.inr rfl)
  · have hdone : s.cancelled = true := by simpa using hcancelled
    exact .leaving hstate hrest (List.cons_ne_nil _ _) hheld (.inr hdone)
  · have hdone : s.cancelled = true := by simpa using hcancelled
    exact .leaving hstate hrest (List.cons_ne_nil _ _) hheld (.inr hdone)
  · have hdone : s.cancelled = true := by simpa using hcancelled
    exact .leaving hstate hrest (List.cons_ne_nil _ _) hheld (.inr hdone)
  · obtain ⟨decoder, problems, hclose⟩ := s.close_eq
    rw [System.perform, hclose]
    exact .ended rfl rfl hheld (.inr (by simpa using hcancelled))

theorem Agenda.closed {rest : List Task} (hheld : s.session.held = none)
    (hstarted : s.session.started = false) : Agenda (s.perform rest .close) := by
  obtain ⟨decoder, problems, hclose⟩ := s.close_eq
  rw [System.perform, hclose]
  exact .ended rfl rfl hheld (.inl hstarted)

theorem Agenda.session (h : Agenda s) (hstep : s.session? = some t) : Agenda t := by
  have hstep := System.sessionStep hstep
  generalize s.sessionHappenings = more at hstep
  cases hstep with
  | hears hwork hopen hreceive =>
    exact h.heard hwork hopen (attends hreceive) (untouched_heard (System.heard hreceive))
  | @performs task rest hwork =>
    cases h with
    | unopened _ hclose hheld hstarted =>
      obtain ⟨rfl, rfl⟩ : task = .close ∧ rest = [] := by simpa [hwork] using hclose
      exact .closed hheld hstarted
    | ready _ hready => cases hwork.symm.trans hready
    | @busy thread tasks wasStarted flow hstate herrand hbusy hstart =>
      cases tasks with
      | nil =>
        obtain ⟨rfl, rfl⟩ := List.cons.inj (hwork.symm.trans hbusy)
        exact .decided hstate
      | cons first tasks =>
        obtain ⟨rfl, rfl⟩ := List.cons.inj (hwork.symm.trans hbusy)
        exact .proceeded hstate herrand hstart
    | leaving hstate hleaving _ hheld hcancelled =>
      exact .left hstate (hwork ▸ hleaving) hheld (hwork ▸ hcancelled)
    | ended _ hover => cases hwork.symm.trans hover

theorem Agenda.of_terminating (h : Agenda s) (hstate : s.session.state = .terminating) :
    s.session.work <:+ farewellTasks ∧ s.session.work ≠ [] ∧ s.session.held = none ∧
      (.cancel ∈ s.session.work ∨ s.cancelled = true) := by
  cases h with
  | leaving _ hwork hne hheld hcancelled => exact ⟨hwork, hne, hheld, hcancelled⟩
  | unopened hother =>
    rcases hother with hother | hother <;> exact nomatch hother.symm.trans hstate
  | ready hother | busy hother | ended hother => exact nomatch hother.symm.trans hstate

theorem Agenda.of_closed (h : Agenda s) (hstate : s.session.state = .closed) :
    s.session.work = [] ∧ s.session.held = none ∧
      (s.session.started = false ∨ s.cancelled = true) := by
  cases h with
  | ended _ hwork hheld hcancelled => exact ⟨hwork, hheld, hcancelled⟩
  | unopened hother =>
    rcases hother with hother | hother <;> exact nomatch hother.symm.trans hstate
  | ready hother | busy hother | leaving hother => exact nomatch hother.symm.trans hstate

/-- A message at hand is worked on in an errand. -/
theorem Agenda.of_working (h : Agenda s) (hstate : s.session.state = .dispatching)
    {tasks : List Task} {wasStarted : Bool} {flow : Flow}
    (hwork : s.session.work = tasks ++ [Task.decide wasStarted flow]) :
    ∃ thread, Errand thread tasks ∧ Punctual s.session.started tasks wasStarted flow := by
  cases h with
  | @busy thread _ _ _ _ herrand hbusy hstart =>
    obtain ⟨rfl, hdecide⟩ := List.append_singleton_inj.mp (hwork.symm.trans hbusy)
    cases hdecide
    exact ⟨thread, herrand, hstart⟩
  | ready _ hready => exact absurd (hready.symm.trans hwork) (by simp)
  | unopened hother =>
    rcases hother with hother | hother <;> exact nomatch hother.symm.trans hstate
  | leaving hother | ended hother => exact nomatch hother.symm.trans hstate

/-- An open session stays open, or it has the whole farewell before it. -/
theorem session_of_dispatching (hagenda : Agenda s) (hstate : s.session.state = .dispatching)
    (hstep : s.session? = some t) :
    t.session.state = .dispatching ∨
      t.session.state = .terminating ∧ t.session.work = farewellTasks := by
  have hstep := System.sessionStep hstep
  generalize s.sessionHappenings = more at hstep
  cases hstep with
  | hears _ _ hreceive =>
    have hattends := attends hreceive
    generalize s.hearing = more at hattends
    cases hattends with
    | takesUp _ hnext => exact .inl hnext
    | opens _ hnext => exact .inl hnext
    | leaves _ hnext hfarewell => exact .inr ⟨hnext, hfarewell⟩
    | givesUp hnot => exact absurd hstate hnot
  | @performs task rest hwork =>
    cases hagenda with
    | @busy thread tasks wasStarted flow _ herrand hbusy =>
      cases tasks with
      | nil =>
        obtain ⟨rfl, rfl⟩ := List.cons.inj (hwork.symm.trans hbusy)
        rcases perform_decide hstate with ⟨hnext, -⟩ | ⟨hnext, hfarewell, -⟩
        · exact .inl hnext
        · exact .inr ⟨hnext, hfarewell⟩
      | cons first tasks =>
        obtain ⟨rfl, rfl⟩ := List.cons.inj (hwork.symm.trans hbusy)
        have hproceeds : Proceeds wasStarted flow (task :: tasks)
            (s.perform (tasks ++ [Task.decide wasStarted flow]) task) := proceeds_perform hstate herrand
        cases hproceeds with
        | leaves hnext hfarewell => exact .inr ⟨hnext, hfarewell⟩
        | goesOn hnext => exact .inl hnext
    | unopened hother =>
      rcases hother with hother | hother <;> cases hother.symm.trans hstate
    | ready _ hready => cases hwork.symm.trans hready
    | leaving hother | ended hother => cases hother.symm.trans hstate

end DebugAdapter.Evaluation
