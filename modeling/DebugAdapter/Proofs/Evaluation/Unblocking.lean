import DebugAdapter.Proofs.Evaluation.Unblocking.Emptying
import DebugAdapter.Proofs.Evaluation.Unblocking.Verdicts

/-! # Nobody waits for ever

At its end the session marks the context as done and empties the tables. A stop that the pump puts
into the table after that does not stay there, since the pump looks at the context after it has
recorded the stop. So once the pump has nothing left to do, nobody holds a stop any more, and every
thread that waits goes on or learns that it will not be resumed. -/

namespace DebugAdapter.Evaluation

open Debuggee Protocol Session

section Step

variable {s t : System}

/-! ## Runs -/

/-- What an evaluation produces at its end is no stop. -/
def Plain (s : System) : Prop :=
  ∀ items, s.engine = .finishing items → ∀ item ∈ items, item.stop? = none

theorem plain_engine (h : Plain s) (hstep : s.engine? = some t) : Plain t := by
  intro items hitems
  have hstep := System.engineStep hstep
  generalize s.engineHappenings = more at hstep
  cases hstep with
  | finishes =>
    cases hitems
    exact isSingle_items _
  | offers hengine =>
    cases hitems
    exact fun other hother => h _ hengine other (List.mem_cons_of_mem _ hother)
  | _ => exact nomatch hitems

theorem plain_move (h : Plain s) {move : Move} (hmove : s.move? move = some t) : Plain t := by
  have hkeep : t.engine = s.engine → Plain t := fun hengine items hitems =>
    h items (hengine.symm.trans hitems)
  match move with
  | .step .session =>
    cases commences_session hmove with
    | same hengine => exact hkeep hengine
    | starts _ _ _ hengine => exact fun items hitems => nomatch hengine.symm.trans hitems
  | .step .pump => exact hkeep (System.keptByPump hmove).engine_eq
  | .step .engine => exact plain_engine h hmove
  | .step (.aside c) =>
    obtain ⟨-, goesOn, -, rfl⟩ := System.aside_eq hmove
    exact hkeep rfl
  | .report stop =>
    obtain ⟨-, rfl⟩ := System.reportAside_eq hmove
    exact hkeep rfl
  | .deliver _ | .hangUp =>
    obtain rfl := Option.some.inj hmove
    exact hkeep rfl

/-- A request to go on was accepted for the stop on a channel, and its thread was told. -/
def ToldFor (c : Channel) (log : List Happening) : Prop :=
  ∃ request event, event.resume = c ∧ request.command = "continue" ∧
    [.accepted request event, .resumed c].Sublist log

/-- How a run has handled its stops so far. -/
structure Settling (log : List Happening) (s : System) : Prop where
  agenda : Agenda s
  dormant : s.session.started = false → Dormant s
  guarded : Guarded s.pump
  emptied : Purged s → Emptied s
  plain : Plain s
  known : ∀ c, s.isHeld c = true ∨ s.engine.waits? = some c ∨ c ∈ s.aside → c < s.channels
  resuming : Resuming log s
  signalled : ∀ c ∈ s.signals, ToldFor c log
  returned : ∀ c goesOn, .returned c goesOn ∈ log → c < s.channels ∧ s.verdict? c = some goesOn

theorem guarded_move (h : Guarded s.pump) {move : Move} (hmove : s.move? move = some t) :
    Guarded t.pump := by
  by_cases hpump : move = .step .pump
  · subst hpump
    exact guarded_pump h hmove
  · exact (pump_of_move hmove hpump).1 ▸ h

theorem signalled_move {log more : List Happening} (h : ∀ c ∈ s.signals, ToldFor c log)
    (hresuming : Resuming log s) (hsignals : Signals s t more) :
    ∀ c ∈ t.signals, ToldFor c (log ++ more) := by
  have hold : ∀ c ∈ s.signals, ToldFor c (log ++ more) := by
    intro c hc
    obtain ⟨request, event, hresume, hcommand, htold⟩ := h c hc
    exact ⟨request, event, hresume, hcommand, htold.trans (List.sublist_append_left _ _)⟩
  cases hsignals with
  | same heq => exact heq ▸ hold
  | @resumes event rest hwork hheld heq hmore =>
    rw [heq]
    refine List.forall_mem_cons.mpr ⟨?_, hold⟩
    obtain ⟨request, held, hheld', hcommand, haccepted⟩ := hresuming (hwork ▸ List.mem_cons_self)
    obtain rfl := Option.some.inj (hheld.symm.trans hheld')
    rw [hmore]
    exact ⟨request, event, rfl, hcommand,
      (List.singleton_sublist.mpr haccepted).append (List.Sublist.refl [_])⟩

theorem Settling.move {log : List Happening} {move : Move} (h : Settling log s)
    (hmove : s.move? move = some t) : Settling (log ++ s.happenings move) t := by
  have hopens := opens_move h.plain hmove
  have hsignals := signals_move hmove
  refine ⟨h.agenda.move hmove, Dormant.move h.dormant hmove, guarded_move h.guarded hmove,
    emptied_move h.agenda h.dormant h.guarded h.emptied hmove, plain_move h.plain hmove, ?_,
    h.resuming.move h.agenda hmove, signalled_move h.signalled h.resuming hsignals, ?_⟩
  · intro c hc
    have hchannels := hopens.channels
    have hcases : (s.isHeld c = true ∨ s.engine.waits? = some c ∨ c ∈ s.aside) ∨
        c = s.channels ∧ t.channels = s.channels + 1 := by
      rcases hc with hc | hc | hc
      · exact (hopens.held c hc).imp_left .inl
      · exact (hopens.waits c hc).imp_left (.inr ∘ .inl)
      · exact (hopens.aside c hc).imp_left (.inr ∘ .inr)
    rcases hcases with hbefore | ⟨rfl, hnext⟩
    · exact Nat.lt_of_lt_of_le (h.known c hbefore) hchannels
    · rw [hnext]
      exact Nat.lt_succ_self _
  · intro c goesOn hreturned
    have hbefore : c < s.channels ∧ s.verdict? c = some goesOn := by
      rcases List.mem_append.mp hreturned with hreturned | hreturned
      · exact h.returned c goesOn hreturned
      · obtain ⟨hverdict, hwaits⟩ := returned_move hmove hreturned
        exact ⟨h.known c (.inr hwaits), hverdict⟩
    obtain ⟨hc, hverdict⟩ := hbefore
    exact ⟨Nat.lt_of_lt_of_le hc hopens.channels, verdict_move hopens hsignals hc hverdict⟩

theorem settling_play (script : Script) (decoder : Framing.Decoder) (outbox : Outbox)
    (moves : List Move) :
    Settling (System.play moves (.starting script decoder outbox)).1
      (System.play moves (.starting script decoder outbox)).2 := by
  refine System.play_induction (P := Settling) ?_ (fun _ _ _ _ h => h.move) moves
  refine ⟨.unopened (.inl rfl) (.inl rfl) rfl rfl, fun _ => ⟨rfl, rfl, rfl, rfl, rfl⟩, trivial,
    fun _ => .inl rfl, fun _ h => (nomatch h), fun c hc => ?_, fun h => absurd h List.not_mem_nil,
    fun _ h => absurd h List.not_mem_nil, fun _ _ h => absurd h List.not_mem_nil⟩
  simp [System.starting, System.isHeld, EngineThread.waits?] at hc

end Step

/-! ## After the end of a session -/

/-- The session has done what it does at its end: the context is done and the tables were emptied. -/
def Terminated (s : System) : Prop :=
  s.session.state = .closed ∨ s.session.state = .terminating ∧ s.session.work = [.close]

/-- The session is over and the pump has passed on all there was. -/
structure AtRest (s : System) : Prop where
  terminated : Terminated s
  queue : s.queue.items = []
  pump : s.pump = []

/-- Nobody waits for ever. -/
structure Unblocked (log : List Happening) (s : System) : Prop where
  /-- There are no stops left. -/
  empty : s.registries.events.entries = []
  /-- Every thread that waits may go on at once. -/
  free : (∀ c, s.engine.waits? = some c → s.engine? ≠ none) ∧ ∀ c ∈ s.aside, s.aside? c ≠ none
  /-- For every stop that was reported a request to go on was accepted and the thread was told, or
  nobody is left who could tell it. The thread learns which. -/
  settled : ∀ report c, .stopped report c ∈ enqueueds log →
    (s.verdict? c = some true ∧ ToldFor c log) ∨ (s.verdict? c = some false ∧ s.isHeld c = false)
  /-- Threads that do not wait any more have learned the same. -/
  returned : ∀ c goesOn, .returned c goesOn ∈ log → s.verdict? c = some goesOn

theorem Terminated.purged {s : System} (h : Terminated s) : Purged s := by
  refine h.imp_right fun ⟨hstate, hwork⟩ => ⟨hstate, ?_⟩
  rw [hwork]
  decide

theorem Terminated.held {s : System} (h : Terminated s) (hagenda : Agenda s) :
    s.session.held = none := by
  rcases h with hclosed | ⟨hterminating, -⟩
  · exact (hagenda.of_closed hclosed).2.1
  · exact (hagenda.of_terminating hterminating).2.2.1

/-- When the session is over and the pump has nothing left to do, no thread stays blocked, whatever
the threads of the engine report, be it long after the evaluation, and in whichever order the steps
were made. -/
theorem unblocked_play (script : Script) (decoder : Framing.Decoder) (outbox : Outbox)
    (moves : List Move)
    (hrest : AtRest (System.play moves (.starting script decoder outbox)).2) :
    Unblocked (System.play moves (.starting script decoder outbox)).1
      (System.play moves (.starting script decoder outbox)).2 := by
  have hsettling := settling_play script decoder outbox moves
  generalize System.play moves (.starting script decoder outbox) = run at *
  obtain ⟨log, s⟩ := run
  obtain ⟨hend, hqueue, hpump⟩ := hrest
  dsimp only at *
  have hempty : s.registries.events.entries = [] := by
    refine (hsettling.emptied hend.purged).resolve_right ?_
    rw [hpump]
    rintro ⟨_, hmem, -⟩
    exact absurd hmem List.not_mem_nil
  have hdropped : ∀ c, s.isHeld c = false := by
    intro c
    rw [Bool.eq_false_iff, ne_eq, isHeld_iff, hqueue, hpump, hempty, hend.held hsettling.agenda]
    simp
  have hverdict : ∀ c, (s.verdict? c = some true ∧ ToldFor c log) ∨
      (s.verdict? c = some false ∧ s.isHeld c = false) := by
    intro c
    by_cases hc : c ∈ s.signals
    · exact .inl ⟨verdict?_eq_true.mpr hc, hsettling.signalled c hc⟩
    · exact .inr ⟨verdict?_eq_false.mpr ⟨hc, hdropped c⟩, hdropped c⟩
  have hlearns : ∀ c, s.verdict? c ≠ none := by
    intro c hnone
    rcases hverdict c with ⟨h, -⟩ | ⟨h, -⟩ <;> cases hnone.symm.trans h
  refine ⟨hempty, ⟨fun c hwaits => ?_, fun c hc => ?_⟩, fun _ c _ => hverdict c,
    fun c goesOn h => (hsettling.returned c goesOn h).2⟩
  · cases hengine : s.engine with
    | waiting d resumed refused =>
      obtain rfl : d = c := by simpa [hengine, EngineThread.waits?] using hwaits
      rw [System.engine?, hengine]
      simpa using hlearns d
    | _ =>
      rw [hengine] at hwaits
      cases hwaits
  · rw [System.aside?, if_pos hc]
    simpa using hlearns c

/-- A program that goes on after its first stop, and then stops on two threads at once. -/
def stopTwice : Script :=
  .stop { thread := 1, reason := "entry" }
    (.stopAside { thread := 2, reason := "breakpoint" }
      (.stop { thread := 1, reason := "breakpoint" } (.finish (.success 0))
        (.finish (.failure .cancelled))))
    (.finish (.failure .cancelled))

/-- The client has the program go on once and hangs up. The next stops are passed on only when the
session is over, and then the evaluation comes to its end. After that another thread reports a
stop. -/
def abandonment : List Move :=
  turns [(5, .session), (1, .engine), (8, .pump), (8, .session), (3, .engine)] ++
    .hangUp :: turns [(6, .session), (22, .pump), (5, .engine), (5, .pump)] ++
    .report { thread := 3, reason := "pause" } :: turns [(10, .pump)]

/-- What happens then, and what comes of it. -/
def abandonmentRun : List Happening × System :=
  System.play abandonment (.starting stopTwice resumingClient {})

theorem unblocked_play_stopTwice :
    AtRest abandonmentRun.2 ∧ abandonmentRun.2.signals = [0] ∧ abandonmentRun.2.aside = [1, 3] ∧
      returnsOn 2 abandonmentRun.1 = [false] ∧ abandonmentRun.2.engine = .ended ∧
      Unblocked abandonmentRun.1 abandonmentRun.2 := by
  have hrun : (abandonmentRun.2.session.state = .terminating ∧
      abandonmentRun.2.session.work = [.close]) ∧ abandonmentRun.2.queue.items = [] ∧
      abandonmentRun.2.pump = [] ∧ abandonmentRun.2.signals = [0] ∧
      abandonmentRun.2.aside = [1, 3] ∧ returnsOn 2 abandonmentRun.1 = [false] ∧
      abandonmentRun.2.engine = .ended := by
    decide +kernel
  obtain ⟨hstate, hqueue, hpump, hsignals, haside, hreturned, hended⟩ := hrun
  have hrest : AtRest abandonmentRun.2 := ⟨.inr hstate, hqueue, hpump⟩
  exact ⟨hrest, hsignals, haside, hreturned, hended,
    unblocked_play stopTwice resumingClient {} abandonment hrest⟩

end DebugAdapter.Evaluation
