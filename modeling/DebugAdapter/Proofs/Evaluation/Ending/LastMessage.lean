import DebugAdapter.Proofs.Evaluation.Agenda

/-! # The last message

The session looks at the context after every message. So the message that it works on when the
context is done is the last one. -/

namespace DebugAdapter.Evaluation

open Debuggee Protocol Session

variable {s t : System}

/-- The verdict on the message at hand will be that the session ends. -/
def Final (s : System) (tasks : List Task) (wasStarted : Bool) (flow : Flow) : Prop :=
  flow = .stop ∨ wasStarted = s.session.started ∧
    (s.cancelled = true ∨ .cancel ∈ tasks ∧ .start ∉ tasks)

/-- The session works on its last message, or it is about to end. -/
inductive Concluding (s : System) : Prop where
  | working {tasks : List Task} {wasStarted : Bool} {flow : Flow}
      (hstate : s.session.state = .dispatching)
      (hwork : s.session.work = tasks ++ [.decide wasStarted flow])
      (hfinal : Final s tasks wasStarted flow)
  | leaving (hstate : s.session.state = .terminating)
  | ended (hstate : s.session.state = .closed)

theorem Concluding.idle (h : Concluding s) (hidle : Idles s t) : Concluding t := by
  cases h with
  | working hstate hwork hfinal =>
    refine .working (hidle.state_eq.trans hstate) (hidle.work_eq.trans hwork) ?_
    rw [Final, hidle.started_eq]
    exact hfinal.imp_right (And.imp_right (Or.imp_left hidle.cancelled))
  | leaving hstate => exact .leaving (hidle.state_eq.trans hstate)
  | ended hstate => exact .ended (hidle.state_eq.trans hstate)

/-- A session that has nothing to do and no message to come is over. -/
theorem Concluding.closed (h : Concluding s) (hagenda : Agenda s) (hwork : s.session.work = []) :
    s.session.state = .closed := by
  cases h with
  | working _ hbusy => exact absurd (hwork.symm.trans hbusy) (by simp)
  | ended hstate => exact hstate
  | leaving hstate => exact absurd hwork (hagenda.of_terminating hstate).2.1

theorem Concluding.decided {wasStarted : Bool} {flow : Flow}
    (hstate : s.session.state = .dispatching) (hfinal : Final s [] wasStarted flow) :
    Concluding (s.perform [] (.decide wasStarted flow)) := by
  have hstop : flow = .stop ∨ wasStarted = s.session.started ∧ s.cancelled = true := by
    simpa [Final] using hfinal
  have hverdict : flow = .stop ∨
      s.cancelled = true ∧ (wasStarted = true ∨ s.session.started = false) := by
    refine hstop.imp_right fun ⟨hwas, hcancelled⟩ => ⟨hcancelled, ?_⟩
    rw [hwas]
    exact Bool.eq_false_or_eq_true _
  rw [System.perform]
  dsimp only
  rw [if_pos (by simpa [System.withWork] using hverdict)]
  exact .leaving (endWith_of_dispatching
    (s := { s with session := { s.session with work := [], held := none } }) (.ok ()) hstate).1

theorem Final.perform {task : Task} {tasks left : List Task}
    {wasStarted : Bool} {flow : Flow} {rest : List Task}
    (h : Final s (task :: tasks) wasStarted flow)
    (hstart : .start ∈ left → .start ∈ task :: tasks)
    (hcancel : .cancel ∈ task :: tasks →
      .cancel ∈ left ∨ (s.perform rest task).cancelled = true) :
    Final (s.perform rest task) left wasStarted flow := by
  rcases h with hflow | ⟨hwas, hdone⟩
  · exact .inl hflow
  · have hcases : (s.perform rest task).cancelled = true ∨ .cancel ∈ left ∧ .start ∉ left := by
      rcases hdone with hdone | ⟨hmem, hnot⟩
      · exact .inl (cancelled_perform s rest task hdone)
      · exact (hcancel hmem).elim (fun hleft => .inr ⟨hleft, fun h => hnot (hstart h)⟩) .inl
    refine .inr ⟨?_, hcases⟩
    by_cases htask : task = .start
    · subst htask
      rcases perform_start s rest with ⟨hsame, -⟩ | ⟨-, hopen, -⟩
      · rw [hsame]
        exact hwas
      · rcases hdone with hdone | ⟨-, hnot⟩
        · exact nomatch hopen.symm.trans hdone
        · exact absurd List.mem_cons_self hnot
    · rw [started_perform s rest htask]
      exact hwas

theorem Concluding.performed {thread : Option Int64} {task : Task} {tasks : List Task}
    {wasStarted : Bool} {flow : Flow} (hstate : s.session.state = .dispatching)
    (herrand : Errand thread (task :: tasks)) (hfinal : Final s (task :: tasks) wasStarted flow) :
    Concluding (s.perform (tasks ++ [Task.decide wasStarted flow]) task) := by
  have hproceeds : Proceeds wasStarted flow (task :: tasks)
      (s.perform (tasks ++ [Task.decide wasStarted flow]) task) := proceeds_perform hstate herrand
  cases hproceeds with
  | leaves hnext => exact .leaving hnext
  | goesOn hnext _ hwork hstart hcancel =>
    exact .working hnext hwork (hfinal.perform hstart hcancel)

theorem Concluding.left {task : Task} {rest : List Task}
    (hstate : s.session.state = .terminating) (hwork : task :: rest <:+ farewellTasks) :
    Concluding (s.perform rest task) := by
  rcases farewell_of_suffix hwork with
    ⟨rfl, -⟩ | ⟨rfl, -⟩ | ⟨rfl, -⟩ | ⟨rfl, -⟩ | ⟨rfl, -⟩ | ⟨rfl, -⟩
  · obtain ⟨problems, hfarewell⟩ := s.farewell_eq rest
    rw [hfarewell]
    exact .leaving hstate
  · exact .leaving hstate
  · exact .leaving hstate
  · exact .leaving hstate
  · exact .leaving hstate
  · obtain ⟨decoder, problems, hclose⟩ := s.close_eq
    rw [System.perform, hclose]
    exact .ended rfl

/-- A session that is about to end takes up no more messages. -/
theorem Concluding.session (h : Concluding s) (hagenda : Agenda s) (hstep : s.session? = some t) :
    Concluding t ∧ handleds s.sessionHappenings = [] := by
  have hstep := System.sessionStep hstep
  generalize s.sessionHappenings = more at hstep
  cases hstep with
  | hears hwork hopen => exact absurd (h.closed hagenda hwork) hopen
  | @performs task rest hwork =>
    refine ⟨?_, handleds_performing s task⟩
    cases h with
    | @working tasks wasStarted flow hstate hplan hfinal =>
      obtain ⟨thread, herrand, -⟩ := hagenda.of_working hstate hplan
      cases tasks with
      | nil =>
        obtain ⟨rfl, rfl⟩ := List.cons.inj (hwork.symm.trans hplan)
        exact .decided hstate hfinal
      | cons first tasks =>
        obtain ⟨rfl, rfl⟩ := List.cons.inj (hwork.symm.trans hplan)
        exact .performed hstate herrand hfinal
    | leaving hstate => exact .left hstate (hwork ▸ (hagenda.of_terminating hstate).1)
    | ended hstate => cases hwork.symm.trans (hagenda.of_closed hstate).1

theorem Concluding.move {move : Move} (h : Concluding s) (hagenda : Agenda s)
    (hmove : s.move? move = some t) : Concluding t ∧ handleds (s.happenings move) = [] := by
  by_cases hsession : move = .step .session
  · subst hsession
    exact h.session hagenda hmove
  · exact ⟨h.idle (idles_move hsession hmove), handleds_idle hsession⟩

/-- A message that asks for the end of the session, or that is taken up when the context is done, is
the last one. -/
theorem Concluding.of_taken {m : Message} (hstate : t.session.state = .dispatching)
    (hwork : t.session.work = planMessage t.session.started m)
    (hlast : t.cancelled = true ∨
      ∃ r, m = .request r ∧ (r.command = "terminate" ∨ r.command = "disconnect")) :
    Concluding t := by
  rcases hlast with hcancelled | ⟨r, rfl, hcommand⟩
  · obtain ⟨tasks, flow, hplan, -, -⟩ := planMessage_eq t.session.started m
    exact .working hstate (hwork.trans hplan) (.inr ⟨rfl, .inl hcancelled⟩)
  · refine .working hstate hwork ?_
    rcases ends_planRequest hcommand with hflow | ⟨hstart, hcancel⟩
    · exact .inl hflow
    · exact .inr ⟨rfl, .inr ⟨hcancel, hstart⟩⟩

theorem Concluding.of_attends {more : List Happening} (hattends : Attends s more t)
    (hsame : Untouched s t) {m : Message} (hm : m ∈ handleds more)
    (hlast : s.cancelled = true ∧ s.session.state = .dispatching ∨
      ∃ r, m = .request r ∧ (r.command = "terminate" ∨ r.command = "disconnect")) :
    Concluding t ∧ handleds more = [m] := by
  have hopening : ∀ r : Request, r.command = openingCommand →
      ¬(r.command = "terminate" ∨ r.command = "disconnect") := by
    intro r hr
    rw [hr]
    decide
  cases hattends with
  | @takesUp m' _ hstate hnext hwork =>
    obtain rfl : m = m' := List.mem_singleton.mp hm
    refine ⟨.of_taken hnext (hsame.started_eq ▸ hwork) ?_, rfl⟩
    exact hlast.imp_left fun h => hsame.cancelled_eq.trans h.1
  | @opens r x _ hstate hnext hwork hr hx =>
    have hmore : handleds [.handled (.request r), x] = [.request r] := by
      rw [handleds, List.filterMap_cons, List.filterMap_cons_none hx]
      rfl
    rw [hmore] at hm
    obtain rfl := List.mem_singleton.mp hm
    rcases hlast with ⟨-, hopen⟩ | ⟨r', heq, hcommand⟩
    · exact absurd hopen hstate
    · cases heq
      exact absurd hcommand (hopening r hr)
  | leaves => exact absurd hm List.not_mem_nil
  | givesUp hstate _ _ _ hmore =>
    rcases hlast with ⟨-, hopen⟩ | ⟨r, rfl, hcommand⟩
    · exact absurd hopen hstate
    · exact absurd hcommand (hopening r (hmore r hm))

theorem Agenda.of_started (h : Agenda s) (hstarted : s.session.started = true)
    (hwork : s.session.work = []) (hopen : s.session.state ≠ .closed) :
    s.session.state = .dispatching := by
  cases h with
  | ready hstate => exact hstate
  | busy hstate => exact hstate
  | unopened _ _ _ hnot => exact nomatch hnot.symm.trans hstarted
  | leaving _ _ hne => exact absurd hwork hne
  | ended hstate => exact absurd hstate hopen

/-- A message is the last one if the context of the evaluation was done when it was taken up, or if
it asks for the end of the session. -/
theorem Concluding.of_handled (hagenda : Agenda s) {move : Move} (hmove : s.move? move = some t)
    {m : Message} (hm : m ∈ handleds (s.happenings move))
    (hlast : s.cancelled = true ∧ s.session.started = true ∨
      ∃ r, m = .request r ∧ (r.command = "terminate" ∨ r.command = "disconnect")) :
    Concluding t ∧ handleds (s.happenings move) = [m] := by
  by_cases hsession : move = .step .session
  · subst hsession
    have hstep := System.sessionStep hmove
    rw [System.happenings] at hm ⊢
    generalize s.sessionHappenings = more at hstep hm
    cases hstep with
    | performs =>
      rw [handleds_performing] at hm
      exact absurd hm List.not_mem_nil
    | hears hwork hopen hreceive =>
      exact Concluding.of_attends (attends hreceive) (untouched_heard (System.heard hreceive)) hm
        (hlast.imp_left fun h => ⟨h.1, hagenda.of_started h.2 hwork hopen⟩)
  · rw [handleds_idle hsession] at hm
    exact absurd hm List.not_mem_nil

end DebugAdapter.Evaluation
