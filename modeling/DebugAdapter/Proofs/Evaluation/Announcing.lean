import DebugAdapter.Proofs.Evaluation.Ending
import DebugAdapter.Proofs.Evaluation.Production

/-! # What the pump has in hand

When an engine stops on one thread there is one stop at most, and the pump never finds another one in
the table. This is what is left of its work then at every moment, and what each of its steps does.
Before the session works on its last message the context is done only when the evaluation is over. -/

namespace DebugAdapter.Evaluation

open Debuggee Protocol Session

/-! ## The work of the pump -/

/-- What the pump does for a stop before it puts it into the table. -/
inductive Preparing (report : DebugStop) (c : Channel) : List PumpTask → Prop where
  | planned : Preparing report c (planItem (.stopped report c))
  | locals : Preparing report c
      [.purgeVariables, .listStopped, .record report c [] [] report.frames, .announce report]
  | others : Preparing report c
      [.listStopped, .record report c [] [] report.frames, .announce report]
  | frames {ids scopes frames} :
      Preparing report c [.record report c ids scopes frames, .announce report]

/-- What the pump does when the context is done by the time that it has put a stop into the table. -/
def releaseTasks : List PumpTask := [.purgeEvents, .purgeFrames, .purgeVariables]

/-- What the pump still has to do for the item that it took last. -/
inductive Handling (cancelled : Bool) (last : Option Item) : List PumpTask → Prop where
  | idle : Handling cancelled last []
  | posts (item : Item) : Handling cancelled last [.send item.message]
  | ends (hlast : last = some .terminated) : Handling cancelled last [.cancel, .send endNotice]
  | prepares {report c tasks} (h : Preparing report c tasks) : Handling cancelled last tasks
  | retains (report : DebugStop) (c : Channel) {ids} : Handling cancelled last
      [.retain ⟨report.thread, ids, c⟩, .announce report]
  | decides (report : DebugStop) : Handling cancelled last [.announce report]
  | releases {task tasks} (hcancelled : cancelled = true) (h : task :: tasks <:+ releaseTasks) :
      Handling cancelled last (task :: tasks)

theorem handling_planItem (cancelled : Bool) (item : Item) :
    Handling cancelled (some item) (planItem item) := by
  cases item with
  | output category text => exact .posts (.output category text)
  | exited code => exact .posts (.exited code)
  | terminated => exact .ends rfl
  | stopped report c => exact .prepares .planned

theorem Handling.mono {cancelled cancelled' : Bool} {last : Option Item} {tasks : List PumpTask}
    (h : Handling cancelled last tasks) (hcancelled : cancelled = true → cancelled' = true) :
    Handling cancelled' last tasks := by
  cases h with
  | idle => exact .idle
  | posts item => exact .posts item
  | ends hlast => exact .ends hlast
  | prepares h => exact .prepares h
  | retains report c => exact .retains report c
  | decides report => exact .decides report
  | releases hdone h => exact .releases (hcancelled hdone) h

section Step

variable {s t : System} {log more : List Happening}

/-- A step of the pump, when there is one stop at most. -/
inductive Pumps (s : System) : List Happening → System → Prop where
  | takes {item items queue} (hpump : s.pump = []) (hitems : s.queue.items = item :: items) :
      Pumps s [.taken item] { s with queue, pump := planItem item }
  | posts (item : Item) (hpump : s.pump = [.send item.message]) :
      Pumps s [System.posting .pump item.message s.outbox (s.outbox.post item.message)]
        { s with outbox := (s.outbox.post item.message).2, pump := [] }
  | ends (hpump : s.pump = [.cancel, .send endNotice]) :
      Pumps s [] { s with cancelled := true, pump := [.send endNotice] }
  | prepares {report c next registries} (hbefore : Preparing report c s.pump)
      (hafter : Preparing report c next ∨
        ∃ ids, next = [.retain ⟨report.thread, ids, c⟩, .announce report])
      (hevents : registries.events = s.registries.events) :
      Pumps s [] { s with registries, pump := next }
  | retains (report : DebugStop) (c : Channel) {ids}
      (hpump : s.pump = [.retain ⟨report.thread, ids, c⟩, .announce report]) :
      Pumps s [.recorded ⟨report.thread, ids, c⟩]
        (s.pumpPerform [.announce report] (.retain ⟨report.thread, ids, c⟩))
  | announces (report : DebugStop) (c : Channel) (hpump : s.pump = [.announce report])
      (hcancelled : s.cancelled = false) :
      Pumps s [] { s with pump := [.send (Item.stopped report c).message] }
  | gives {report} (hpump : s.pump = [.announce report]) (hcancelled : s.cancelled = true) :
      Pumps s [] { s with pump := releaseTasks }
  | releases {task tasks registries} (hpump : s.pump = task :: tasks)
      (hcancelled : s.cancelled = true) (htasks : task :: tasks <:+ releaseTasks)
      (hevents : registries.events = s.registries.events ∨ registries.events = {}) :
      Pumps s [] { s with registries, pump := tasks }

/-- The steps of the pump before it puts a stop into the table. -/
theorem Preparing.pumps {report : DebugStop} {c : Channel} {task : PumpTask} {rest : List PumpTask}
    (h : Preparing report c (task :: rest)) (hpump : s.pump = task :: rest)
    (hempty : task = .listStopped → s.registries.events.entries = []) :
    Pumps s s.pumpHappenings (s.pumpPerform rest task) := by
  have hbefore := hpump ▸ h
  rw [System.pumpHappenings, hpump]
  cases h with
  | planned => exact .prepares hbefore (.inl .locals) rfl
  | locals => exact .prepares hbefore (.inl .others) rfl
  | others =>
    rw [System.pumpPerform, ThreadTable.threads, hempty rfl]
    exact .prepares hbefore (.inl .frames) rfl
  | @frames ids scopes frames =>
    cases frames with
    | nil => exact .prepares hbefore (.inr ⟨ids, rfl⟩) rfl
    | cons frame frames =>
      rw [System.pumpPerform]
      dsimp only
      split <;> exact .prepares hbefore (.inl .frames) rfl

/-- What a step of the pump does depends on what it has in hand. -/
theorem Handling.pumps {last : Option Item} (h : Handling s.cancelled last s.pump)
    (hempty : ∀ rest, s.pump = .listStopped :: rest → s.registries.events.entries = [])
    (hstep : s.pump? = some t) : Pumps s s.pumpHappenings t := by
  cases System.pumpStep hstep with
  | takes hpump hitems hmore =>
    rw [hmore]
    exact .takes hpump hitems
  | @performs task rest hpump =>
    rw [hpump] at h
    cases h with
    | prepares h => exact h.pumps hpump fun htask => hempty rest (htask ▸ hpump)
    | posts item =>
      rw [System.pumpHappenings, hpump]
      exact .posts item hpump
    | ends =>
      rw [System.pumpHappenings, hpump]
      exact .ends hpump
    | retains report c =>
      rw [System.pumpHappenings, hpump]
      exact .retains report c hpump
    | decides report =>
      rw [System.pumpHappenings, hpump, System.pumpPerform]
      by_cases hcancelled : s.cancelled = true
      · rw [if_pos hcancelled]
        exact .gives hpump hcancelled
      · rw [if_neg hcancelled]
        exact .announces report 0 hpump (Bool.eq_false_iff.mpr hcancelled)
    | releases hcancelled htasks =>
      have hcases : task = .purgeEvents ∨ task = .purgeFrames ∨ task = .purgeVariables := by
        simpa [releaseTasks] using htasks.subset List.mem_cons_self
      rw [System.pumpHappenings, hpump]
      rcases hcases with rfl | rfl | rfl
      · exact .releases hpump hcancelled htasks (.inr rfl)
      · exact .releases hpump hcancelled htasks (.inl rfl)
      · exact .releases hpump hcancelled htasks (.inl rfl)

theorem Pumps.handling (h : Pumps s more t) (log : List Happening) :
    Handling t.cancelled (takens (log ++ more)).getLast? t.pump := by
  rw [takens_append]
  cases h with
  | @takes item =>
    have hlast : (takens log ++ takens [.taken item]).getLast? = some item := List.getLast?_concat
    rw [hlast]
    exact handling_planItem s.cancelled item
  | posts => exact .idle
  | ends => exact .posts .terminated
  | prepares _ hafter =>
    rcases hafter with hafter | ⟨ids, rfl⟩
    · exact .prepares hafter
    · exact .retains _ _
  | retains report c => exact .decides report
  | announces report c => exact .posts (.stopped report c)
  | gives _ hcancelled => exact .releases hcancelled List.suffix_rfl
  | @releases task tasks registries hpump hcancelled htasks =>
    have hsuffix := (List.suffix_cons task tasks).trans htasks
    cases tasks with
    | nil => exact .idle
    | cons task tasks => exact .releases hcancelled hsuffix

/-- The pump looks for stopped threads when there are none. -/
theorem Placed.of_listStopped {phase : Phase} {rest : List PumpTask} (h : Placed s phase)
    (hpump : s.pump = .listStopped :: rest) : s.registries.events.entries = [] := by
  have hnone : ∀ {queued listed}, ¬Holds s queued none listed := by
    intro queued listed hholds
    have hplan := hpump ▸ hholds.plan
    cases hplan with
    | plain hplain => exact hplain
  cases phase with
  | going => exact (hnone h).elim
  | waiting report c stage =>
    cases stage with
    | reported => exact (h.resolve_left hnone).listed_eq
    | recorded event => exact (h.2.2.elim hnone hnone).elim
    | accepted | failed | resumed => exact (hnone h).elim

theorem Handling.move {move : Move} (h : Handling s.cancelled (takens log).getLast? s.pump)
    (hkeeping : Keeping log s) (hmove : s.move? move = some t) :
    Handling t.cancelled (takens (log ++ s.happenings move)).getLast? t.pump := by
  by_cases hpump : move = .step .pump
  · subst hpump
    obtain ⟨-, phase, -, hat⟩ := hkeeping
    exact (h.pumps (fun _ hlist => hat.placed.of_listStopped hlist) hmove).handling log
  · obtain ⟨hsame, hnone⟩ := pump_of_move hmove hpump
    rw [takens_append, hnone, List.append_nil, hsame]
    exact h.mono (cancelled_move hmove)

/-! ## What is known of a run -/

/-- What is known of a run of an engine that stops on one thread. -/
structure Reached (log : List Happening) (s : System) : Prop where
  alone : ∀ x ∈ log, x.isReport = false
  keeping : Keeping log s
  settling : Settling log s
  producing : Producing log s
  forwards : Forwards log s
  handling : Handling s.cancelled (takens log).getLast? s.pump

theorem Reached.pumps (h : Reached log s) (hstep : s.pump? = some t) :
    Pumps s s.pumpHappenings t := by
  obtain ⟨-, phase, -, hat⟩ := h.keeping
  exact h.handling.pumps (fun _ hlist => hat.placed.of_listStopped hlist) hstep

/-- When the pump marks the context as done, the evaluation has nothing more to say. -/
theorem Reached.of_ends (h : Reached log s) (hpump : s.pump = [.cancel, .send endNotice]) :
    (s.engine = .finishing [] ∨ s.engine = .ended) ∧ s.queue.items = [] := by
  have hlast : (takens log).getLast? = some .terminated := by
    have hhandling := hpump ▸ h.handling
    cases hhandling with
    | ends hlast => exact hlast
    | prepares hprepares => exact nomatch hprepares
    | releases _ htasks => exact absurd (htasks.subset List.mem_cons_self) (by decide)
  obtain ⟨done, hdone⟩ := List.getLast?_eq_some_iff.mp hlast
  have hsplit : produceds log = done ++ .terminated :: s.queue.items := by
    rw [← enqueueds_eq_produceds h.alone, h.forwards.queued, hdone, List.append_assoc]
    rfl
  obtain ⟨hqueue, hengine⟩ := h.producing.finished h.settling.consistent hsplit
  exact ⟨hengine, hqueue⟩

/-! ## The end of the evaluation -/

/-- The evaluation is over, and all that may be left is to tell the client so. -/
structure Spent (s : System) : Prop where
  engine : s.engine = .finishing [] ∨ s.engine = .ended
  queue : s.queue.items = []
  pump : s.pump = [] ∨ s.pump = [.send endNotice]

/-- The session marks the context as done with the one task that is there for it. -/
theorem cancel_of_session (hstep : s.session? = some t) (hdone : t.cancelled = true) :
    s.cancelled = true ∨ ∃ rest, s.session.work = .cancel :: rest := by
  have hstep := System.sessionStep hstep
  generalize s.sessionHappenings = more at hstep
  cases hstep with
  | hears _ _ hreceive =>
    exact .inl ((untouched_heard (System.heard hreceive)).cancelled_eq.symm.trans hdone)
  | @performs task rest hwork =>
    cases task with
    | start =>
      rcases perform_start s rest with ⟨hsame, -⟩ | ⟨-, -, hsame⟩ <;> rw [hsame] at hdone
      · exact .inl hdone
      · exact .inl hdone
    | cancel => exact .inr ⟨rest, hwork⟩
    | purgeEvents | resume => exact .inl hdone
    | release =>
      rw [System.perform] at hdone
      split at hdone <;> exact .inl hdone
    | send | fail | findStop | findFrames | findScopes | findVariables | purgeFrames |
      purgeVariables | decide | farewell | close =>
      exact .inl ((untouched_perform s rest (by trivial)).cancelled_eq.symm.trans hdone)

theorem Concluding.of_cancel (hagenda : Agenda s) {rest : List Task}
    (hwork : s.session.work = .cancel :: rest) : Concluding s := by
  cases hagenda with
  | unopened _ hclose => simp [hwork] at hclose
  | ready _ hready | ended _ hready => exact nomatch hwork.symm.trans hready
  | leaving hstate => exact .leaving hstate
  | @busy thread tasks wasStarted flow hstate herrand hbusy hstart =>
    cases tasks with
    | nil => exact nomatch hwork.symm.trans hbusy
    | cons first tasks =>
      obtain ⟨rfl, rfl⟩ := List.cons.inj (hwork.symm.trans hbusy)
      cases herrand with
      | look h | passing h => exact h.elim
      | cancel =>
        have hwas : wasStarted = s.session.started := hstart.2.resolve_right fun h =>
          List.cons_ne_nil _ _ h.1
        exact .working hstate hbusy (.inr ⟨hwas, .inr ⟨List.mem_cons_self, by simp⟩⟩)

theorem spent_pump (h : s.cancelled = true → Spent s) (hreached : Reached log s)
    (hstep : s.pump? = some t) (hdone : t.cancelled = true) : Spent t := by
  have hpumps := hreached.pumps hstep
  have hengine := (System.keptByPump hstep).engine_eq
  -- the pump has the notice at most in hand when the context is done before its step
  have hspent : ∀ task rest, s.pump = task :: rest → s.cancelled = true →
      Spent s ∧ task = .send endNotice ∧ rest = [] := by
    intro task rest hpump hcancelled
    have hspent := h hcancelled
    exact ⟨hspent, List.cons.inj (hpump.symm.trans
      (hspent.pump.resolve_left (hpump ▸ List.cons_ne_nil _ _)))⟩
  generalize s.pumpHappenings = more at hpumps
  cases hpumps with
  | takes _ hitems => exact nomatch hitems.symm.trans (h hdone).queue
  | posts item hpump =>
    obtain ⟨hspent, -, -⟩ := hspent _ _ hpump hdone
    exact ⟨hspent.engine, hspent.queue, .inl rfl⟩
  | ends hpump =>
    obtain ⟨hover, hqueue⟩ := hreached.of_ends hpump
    exact ⟨hover, hqueue, .inr rfl⟩
  | prepares hbefore =>
    generalize hpump : s.pump = tasks at hbefore
    cases hbefore with
    | planned | locals | others | frames => exact nomatch (hspent _ _ hpump hdone).2.1
  | retains report c hpump => exact nomatch (hspent _ _ hpump hdone).2.1
  | announces report c hpump => exact nomatch (hspent _ _ hpump hdone).2.1
  | gives hpump => exact nomatch (hspent _ _ hpump hdone).2.1
  | releases hpump _ htasks =>
    obtain ⟨-, rfl, -⟩ := hspent _ _ hpump hdone
    exact absurd (htasks.subset List.mem_cons_self) (by simp [releaseTasks])

/-- The context is done before the end of the session only when the evaluation is over. -/
theorem spent_move {move : Move} (h : s.cancelled = true → Spent s) (hreached : Reached log s)
    (halone : ∀ x ∈ s.happenings move, x.isReport = false) (hnot : ¬Concluding s)
    (hmove : s.move? move = some t) (hdone : t.cancelled = true) : Spent t := by
  match move with
  | .step .session =>
    have hkept := System.keptBySession hmove
    have hbefore := (cancel_of_session hmove hdone).resolve_right fun ⟨_, hwork⟩ =>
      hnot (.of_cancel hreached.settling.agenda hwork)
    obtain ⟨hover, hqueue, hpump⟩ := h hbefore
    cases commences_session hmove with
    | same hengine => exact ⟨hengine ▸ hover, hkept.queue_eq ▸ hqueue, hkept.pump_eq ▸ hpump⟩
    | starts _ hcancelled => exact nomatch hcancelled.symm.trans hbefore
  | .step .pump => exact spent_pump h hreached hmove hdone
  | .step .engine =>
    have hkept := System.keptByEngine hmove
    rw [(received_engine hmove hreached.producing.received).2] at hdone
    obtain ⟨hover, hqueue, hpump⟩ := h hdone
    unfold System.move? System.step? System.engine? at hmove
    rcases hover with hover | hover <;> rw [hover] at hmove
    · obtain rfl := Option.some.inj hmove
      exact ⟨.inr rfl, hqueue, hpump⟩
    · exact nomatch hmove
  | .step (.aside c) =>
    exact nomatch hreached.keeping.solo.aside ▸ (System.aside_eq hmove).1
  | .report stop => exact (not_report hreached.producing.received halone).elim
  | .deliver _ | .hangUp =>
    obtain rfl := Option.some.inj hmove
    obtain ⟨hover, hqueue, hpump⟩ := h hdone
    exact ⟨hover, hqueue, hpump⟩

end Step

/-! ## Runs -/

section Runs

variable {script : Script} (decoder : Framing.Decoder) (outbox : Outbox) (moves : List Move)
  (h : OnOneThread script (System.play moves (.starting script decoder outbox)).1)

include h

theorem handling_play :
    Handling (System.play moves (.starting script decoder outbox)).2.cancelled
      (takens (System.play moves (.starting script decoder outbox)).1).getLast?
      (System.play moves (.starting script decoder outbox)).2.pump := by
  refine System.play_induction_last (P := fun log t => OnOneThread script log →
    Handling t.cancelled (takens log).getLast? t.pump) (fun _ => .idle) ?_ moves h
  intro before move t ih hmove h
  exact (ih h.of_append).move (keeping_play decoder outbox before h.of_append) hmove

theorem reached_play :
    Reached (System.play moves (.starting script decoder outbox)).1
      (System.play moves (.starting script decoder outbox)).2 where
  alone := h.alone
  keeping := keeping_play decoder outbox moves h
  settling := settling_play script decoder outbox moves
  producing := producing_play script decoder outbox moves
  forwards := forwards_play script decoder outbox moves
  handling := handling_play decoder outbox moves h

theorem spent_play :
    Concluding (System.play moves (.starting script decoder outbox)).2 ∨
      ((System.play moves (.starting script decoder outbox)).2.cancelled = true →
        Spent (System.play moves (.starting script decoder outbox)).2) := by
  refine System.play_induction_last (P := fun log t => OnOneThread script log →
    Concluding t ∨ (t.cancelled = true → Spent t))
    (fun _ => .inr fun hdone => absurd hdone Bool.false_ne_true) ?_ moves h
  intro before move t ih hmove h
  have hreached := reached_play decoder outbox before h.of_append
  by_cases hconcluding : Concluding (System.play before (.starting script decoder outbox)).2
  · exact .inl (hconcluding.move hreached.settling.agenda hmove).1
  · have hspent := (ih h.of_append).resolve_left hconcluding
    exact .inr (spent_move hspent hreached h.alone_append hconcluding hmove)

end Runs

end DebugAdapter.Evaluation
