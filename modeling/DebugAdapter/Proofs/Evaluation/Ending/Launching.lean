import DebugAdapter.Proofs.Evaluation.Ending.LastMessage

/-! # The start of the evaluation

The evaluation is started at most once. The client learns that it is over only after the context was
marked as done. -/

namespace DebugAdapter.Evaluation

open Debuggee Protocol Session

variable {s t : System}

/-! ## The notice that the evaluation is over -/

/-- The event that tells the client that the evaluation is over. -/
def endNotice : Message := Item.terminated.message

/-- The client does not learn that the evaluation is over before the context is done. -/
def Warned (s : System) : Prop :=
  .send endNotice ∉ s.pump ∨ s.cancelled = true ∨ s.pump = [.cancel, .send endNotice]

theorem ofBody_ne_endNotice (body : EventBody) : Message.event (.ofBody body) ≠ endNotice := by
  intro h
  exact nomatch congrArg Event.body (Message.event.inj h)

theorem notice_planItem (item : Item) :
    .send endNotice ∉ planItem item ∨ planItem item = [.cancel, .send endNotice] := by
  cases item with
  | terminated => exact .inr rfl
  | output | exited =>
    refine .inl fun h => ?_
    exact ofBody_ne_endNotice _ (PumpTask.send.inj (List.mem_singleton.mp h)).symm
  | stopped => exact .inl (by simp [planItem])

/-- The pump makes up the notice only for the item that says so. -/
theorem notice_pumpPerform (s : System) (rest : List PumpTask) (task : PumpTask)
    (h : .send endNotice ∉ rest) : .send endNotice ∉ (s.pumpPerform rest task).pump := by
  cases task with
  | send | cancel | purgeEvents | purgeFrames | purgeVariables | retain => exact h
  | listStopped =>
    simp only [System.pumpPerform, List.mem_append, List.mem_map]
    rintro (⟨thread, -, heq⟩ | hmem)
    · cases heq
    · exact h hmem
  | findStop thread =>
    rw [System.pumpPerform]
    dsimp only
    split
    · simpa using h
    · exact h
  | record report resume ids scopes frames =>
    cases frames with
    | nil => simpa [System.pumpPerform] using h
    | cons frame frames =>
      rw [System.pumpPerform]
      dsimp only
      split <;> simpa using h
  | announce report =>
    rw [System.pumpPerform]
    dsimp only
    split
    · simpa using h
    · refine fun hmem => (List.mem_cons.mp hmem).elim (fun heq => ?_) h
      exact ofBody_ne_endNotice _ (PumpTask.send.inj heq).symm

theorem Warned.pump (h : Warned s) (hstep : s.pump? = some t) : Warned t := by
  rcases h with hnone | hcancelled | hplan
  · cases System.pumpStep hstep with
    | @performs task rest hpump =>
      rw [hpump] at hnone
      exact .inl (notice_pumpPerform s rest task (fun h => hnone (List.mem_cons_of_mem _ h)))
    | @takes item => exact (notice_planItem item).imp_right .inr
  · exact .inr (.inl (cancelled_pump hstep hcancelled))
  · rw [System.pump?, hplan] at hstep
    obtain rfl := Option.some.inj hstep
    exact .inr (.inl rfl)

theorem Warned.move {move : Move} (h : Warned s) (hmove : s.move? move = some t) : Warned t := by
  by_cases hpump : move = .step .pump
  · subst hpump
    exact h.pump hmove
  · rw [Warned, (pump_of_move hmove hpump).1]
    exact h.imp_right (Or.imp_left (cancelled_move hmove))

theorem Warned.of_posted (h : Warned s) {move : Move} {result : Except Error Unit} {bytes : Bytes}
    (hposted : .posted .pump endNotice result bytes ∈ s.happenings move) : s.cancelled = true := by
  obtain ⟨rest, hpump, -⟩ := pump_of_posted hposted
  rcases h with hnone | hcancelled | hplan
  · rw [hpump] at hnone
    exact absurd List.mem_cons_self hnone
  · exact hcancelled
  · exact nomatch hpump.symm.trans hplan

/-! ## The start of the evaluation -/

/-- Whether the session starts the evaluation in a transition. -/
def Transition.launches (x : Transition) : Bool :=
  x.move = .step .session ∧ x.after.engine ≠ x.before.engine

/-- The message at hand asked for the start of the evaluation. -/
def Due (log : List Happening) (work : List Task) : Prop :=
  .start ∈ work → ∃ r, (handleds log).getLast? = some (.request r) ∧ r.command = "configurationDone"

/-- No task leaves it to another one to start the evaluation. -/
theorem start_perform (s : System) (rest : List Task) (task : Task)
    (h : .start ∈ (s.perform rest task).session.work) : .start ∈ rest := by
  rcases mem_perform s rest task h with hrest | hfarewell | hreply | ⟨request, _, _, -, hreleasing⟩
  · exact hrest
  · exact absurd hfarewell (by decide)
  · exact hreply.elim
  · simp [releasing, Task.respond] at hreleasing

theorem Due.heard {log more : List Happening} (h : Attends s more t)
    (hwork : s.session.work = []) : Due (log ++ more) t.session.work := by
  intro hstart
  cases h with
  | @takesUp m _ _ _ hplan =>
    obtain ⟨tasks, flow, hplanned, -, hrequest⟩ := planMessage_eq s.session.started m
    have htasks : .start ∈ tasks := by simpa [hplan, hplanned] using hstart
    obtain ⟨-, r, rfl, hcommand⟩ := hrequest htasks
    refine ⟨r, ?_, hcommand⟩
    rw [handleds_append]
    exact List.getLast?_concat
  | opens _ _ hsame =>
    rw [hsame, hwork] at hstart
    exact absurd hstart List.not_mem_nil
  | leaves _ _ hfarewell =>
    rw [hfarewell] at hstart
    exact absurd hstart (by decide)
  | givesUp _ _ hclose =>
    rw [hclose] at hstart
    exact absurd hstart (by decide)

theorem Due.move {log : List Happening} {move : Move} (h : Due log s.session.work)
    (hmove : s.move? move = some t) : Due (log ++ s.happenings move) t.session.work := by
  by_cases hsession : move = .step .session
  · subst hsession
    have hstep := System.sessionStep hmove
    rw [System.happenings]
    generalize s.sessionHappenings = more at hstep
    cases hstep with
    | hears hwork _ hreceive => exact Due.heard (attends hreceive) hwork
    | @performs task rest hwork =>
      rw [hwork] at h
      rw [Due, handleds_append, handleds_performing, List.append_nil]
      exact fun hstart => h (List.mem_cons_of_mem _ (start_perform s rest task hstart))
  · rw [Due, handleds_append, handleds_idle hsession, List.append_nil,
      (idles_move hsession hmove).work_eq]
    exact h

/-! ## Runs -/

/-- How a run has gone so far. -/
structure Governed (run : List Transition) (s : System) : Prop where
  agenda : Agenda s
  dormant : s.session.started = false → Dormant s
  count : run.countP Transition.launches = if s.session.started then 1 else 0
  due : Due (logOf run) s.session.work
  warned : Warned s

theorem launches_iff {move : Move} :
    Transition.launches ⟨s, move, t⟩ = true ↔ move = .step .session ∧ t.engine ≠ s.engine := by
  rw [Transition.launches, decide_eq_true_iff]

/-- The errand that ends with the start of the evaluation has nothing else left. -/
theorem Agenda.of_start (h : Agenda s) {rest : List Task}
    (hwork : s.session.work = .start :: rest) :
    s.session.state = .dispatching ∧ rest = [.decide s.session.started .proceed] := by
  cases h with
  | unopened _ hclose => simp [hwork] at hclose
  | ready _ hready | ended _ hready => exact nomatch hwork.symm.trans hready
  | leaving _ hleaving =>
    rw [hwork] at hleaving
    simpa using farewell_of_suffix hleaving
  | @busy thread tasks wasStarted flow hstate herrand hbusy hstart =>
    obtain ⟨hflow, hwas⟩ := hstart
    cases tasks with
    | nil => exact nomatch hwork.symm.trans hbusy
    | cons first tasks =>
      obtain ⟨rfl, rfl⟩ := List.cons.inj (hwork.symm.trans hbusy)
      obtain rfl := hflow List.mem_cons_self
      have hsame := hwas.resolve_right fun h => List.cons_ne_nil _ _ h.1
      cases herrand with
      | look h => exact h.elim
      | passing h => exact h.elim
      | start => exact ⟨hstate, congrArg (fun was => [Task.decide was .proceed]) hsame⟩

/-- The start of the evaluation, which was not started before. -/
structure Launch (s t : System) : Prop where
  stopped : s.session.started = false
  cancelled : s.cancelled = false
  idle : s.engine = .idle
  work : s.session.work = [.start, .decide false .proceed]
  running : t.engine = .running s.script
  started : t.session.started = true
  state : t.session.state = .dispatching
  left : t.session.work = [.decide false .proceed]

/-- The session touches the engine only to start the evaluation. -/
theorem Governed.launch {run : List Transition} {move : Move} (h : Governed run s)
    (hmove : s.move? move = some t) (hlaunch : Transition.launches ⟨s, move, t⟩ = true) :
    Launch s t := by
  obtain ⟨rfl, hengine⟩ := launches_iff.mp hlaunch
  cases commences_session hmove with
  | same hsame => exact absurd hsame hengine
  | starts hbefore hcancelled hwork hrunning hstarted =>
    obtain ⟨hstate, hleft⟩ := h.agenda.of_start hwork
    rw [hbefore] at hleft
    refine ⟨hbefore, hcancelled, (h.dormant hbefore).engine, hwork.trans (by rw [hleft]), hrunning,
      hstarted, ?_, hleft⟩
    obtain hnext := Option.some.inj ((session_of_work hwork).1.symm.trans hmove)
    rw [← hnext]
    rcases perform_start s t.session.work with ⟨h, -⟩ | ⟨-, -, h⟩ <;>
      rw [h] <;> exact hstate

theorem Governed.count_move {run : List Transition} {move : Move} (h : Governed run s)
    (hmove : s.move? move = some t) :
    List.countP Transition.launches (run ++ [⟨s, move, t⟩]) =
      if t.session.started then 1 else 0 := by
  rw [List.countP_append, h.count, List.countP_singleton]
  generalize hx : Transition.mk s move t = x
  cases hlaunch : x.launches with
  | true =>
    have hstart := h.launch hmove (hx ▸ hlaunch)
    simp [hstart.stopped, hstart.started]
  | false =>
    have hsame : t.session.started = s.session.started := by
      by_cases hsession : move = .step .session
      · subst hsession
        cases commences_session hmove with
        | same _ hsame => exact hsame
        | starts hbefore _ _ hengine _ =>
          have hother : t.engine ≠ s.engine := by
            rw [hengine, (h.dormant hbefore).engine]
            exact EngineThread.noConfusion
          exact absurd (launches_iff.mpr ⟨rfl, hother⟩) (by simp [hx, hlaunch])
      · exact (idles_move hsession hmove).started_eq
    simp [hsame]

theorem Governed.move {run : List Transition} {move : Move} (h : Governed run s)
    (hmove : s.move? move = some t) : Governed (run ++ [⟨s, move, t⟩]) t where
  agenda := h.agenda.move hmove
  dormant := Dormant.move h.dormant hmove
  count := h.count_move hmove
  due := by
    rw [logOf_append, logOf_singleton]
    exact h.due.move hmove
  warned := h.warned.move hmove

end DebugAdapter.Evaluation
