import DebugAdapter.Proofs.Evaluation.Handshake.Engine
import DebugAdapter.Proofs.Evaluation.Handshake.Pump
import DebugAdapter.Proofs.Evaluation.Handshake.Session

/-! # Stopping and going on

When an engine stops on one thread only, every run hands the stops over in order: wherever the
threads of the system are interrupted, at most one of them holds the stop at hand, and the thread
that waits can tell from what it learns whether its stop was released. -/

namespace DebugAdapter.Evaluation

open Debuggee Protocol Session

section Step

variable {s t : System} {phase : Phase}

theorem Solo.of_session (h : Solo s) (hkept : System.KeptBySession s t) (hstarts : Starts s t) :
    Solo t where
  script := hkept.script_eq ▸ h.script
  engine := by
    rcases hstarts with ⟨hengine, -⟩ | ⟨-, hengine, -⟩
    · exact hengine ▸ h.engine
    · rw [hengine]
      exact h.script
  aside := hkept.aside_eq.trans h.aside
  received := hkept.queue_eq ▸ h.received
  idle hstarted := by
    rcases hstarts with ⟨hengine, hsame⟩ | ⟨-, -, htrue⟩
    · exact hengine.trans (h.idle (hsame ▸ hstarted))
    · exact nomatch hstarted.symm.trans htrue

theorem Solo.of_pump (h : Solo s) (hstep : s.pump? = some t) : Solo t := by
  have hkept := System.keptByPump hstep
  exact ⟨hkept.script_eq ▸ h.script, hkept.engine_eq ▸ h.engine, hkept.aside_eq.trans h.aside,
    (received_pump hstep).trans h.received, fun hstarted =>
      hkept.engine_eq.trans (h.idle (hkept.session_eq ▸ hstarted))⟩

theorem Busy.of_same {session other : SessionThread} (h : Busy session phase)
    (hwork : other.work = session.work) (hheld : other.held = session.held) : Busy other phase := by
  unfold Busy at h ⊢
  rw [hwork, hheld]
  exact h

/-- The session may hear more or less of its client. -/
theorem At.listen (h : At s phase) {session : SessionThread} (hwork : session.work = s.session.work)
    (hheld : session.held = s.session.held) : At { s with session } phase where
  waits := h.waits
  channels := h.channels
  signals := h.signals
  told := h.told
  placed := h.placed.keep rfl (fun _ _ => id) (.inl rfl)
  busy := h.busy.of_same hwork hheld

theorem Solo.listen (h : Solo s) {session : SessionThread}
    (hstarted : session.started = s.session.started) : Solo { s with session } :=
  ⟨h.script, h.engine, h.aside, h.received, fun hnot => h.idle (hstarted ▸ hnot)⟩

theorem At.work_ne_nil {report : DebugStop} {c : Channel} {request : Request} {event : StopEvent}
    {unsent : List Message} (h : At s (.waiting report c (.accepted request event unsent))) :
    s.session.work ≠ [] := by
  obtain ⟨-, -, purges, rest, hwork, -⟩ := h.busy
  rw [hwork]
  exact List.append_ne_nil_of_right_ne_nil _
    (List.append_ne_nil_of_right_ne_nil _ (List.cons_ne_nil _ _))

theorem At.engine?_ne_none {report : DebugStop} {c : Channel}
    (h : At s (.waiting report c .resumed)) : s.engine? ≠ none := by
  have hwaits := h.waits
  cases hengine : s.engine with
  | waiting d resumed refused =>
    rw [hengine] at hwaits
    obtain rfl : d = c := Option.some.inj hwaits
    rw [System.engine?, hengine]
    dsimp only
    rw [System.verdict?, if_pos (h.told report d rfl)]
    exact Option.some_ne_none _
  | _ =>
    rw [hengine] at hwaits
    cases hwaits

/-- A report from beside the evaluation does not go unseen. -/
theorem not_report {stop : DebugStop} (hreceived : s.queue.received = true)
    (halone : ∀ x ∈ s.happenings (.report stop), x.isReport = false) : False := by
  rw [System.happenings, System.reporting, if_pos hreceived] at halone
  exact Bool.false_ne_true (halone _ List.mem_cons_self).symm

/-- A run has handed its stops over in order so far. -/
structure Keeping (log : List Happening) (s : System) : Prop where
  solo : Solo s
  passage : ∃ phase, Passage (.going 0) log phase ∧ At s phase

theorem keeping_move {log : List Happening} {move : Move} (h : Keeping log s)
    (halone : ∀ x ∈ s.happenings move, x.isReport = false) (hmove : s.move? move = some t) :
    Keeping (log ++ s.happenings move) t := by
  obtain ⟨hsolo, phase, hpassage, hat⟩ := h
  match move with
  | .step .session =>
    obtain ⟨next, hmore, hnext, hstarts⟩ := hat.session hsolo hmove
    exact ⟨hsolo.of_session (System.keptBySession hmove) hstarts, next, hpassage.append hmore,
      hnext⟩
  | .step .pump =>
    obtain ⟨next, hmore, hnext⟩ := hat.pump hmove
    exact ⟨hsolo.of_pump hmove, next, hpassage.append hmore, hnext⟩
  | .step .engine =>
    obtain ⟨next, hmore, hnext, hsolo'⟩ := hat.engine hsolo hmove
    exact ⟨hsolo', next, hpassage.append hmore, hnext⟩
  | .step (.aside c) =>
    exact nomatch hsolo.aside ▸ (System.aside_eq hmove).1
  | .report stop => exact (not_report hsolo.received halone).elim
  | .deliver _ | .hangUp =>
    obtain rfl := Option.some.inj hmove
    rw [System.happenings, List.append_nil]
    exact ⟨hsolo.listen rfl, phase, hpassage, hat.listen rfl rfl⟩

theorem keeping_play {script : Script} (decoder : Framing.Decoder) (outbox : Outbox)
    (moves : List Move)
    (h : OnOneThread script (System.play moves (.starting script decoder outbox)).1) :
    Keeping (System.play moves (.starting script decoder outbox)).1
      (System.play moves (.starting script decoder outbox)).2 := by
  refine System.play_induction (P := fun log t => OnOneThread script log → Keeping log t) ?_ ?_
    moves h
  · intro h
    exact ⟨⟨h.single, trivial, rfl, rfl, fun _ => rfl⟩, .going 0, .nil, rfl, rfl,
      fun _ h => absurd h List.not_mem_nil, fun _ _ heq => (nomatch heq), ⟨rfl, .nil, rfl⟩,
      fun _ h => absurd h List.not_mem_nil⟩
  · intro log t move u ih hmove h
    exact keeping_move (ih h.of_append) h.alone_append hmove

end Step

/-- The client was told that a thread goes on whose stop was released. -/
theorem Released.told {c : Channel} {log : List Happening} (h : Released c log) :
    ∃ request event first second bytes third, Accepted c request event first ∧
      log = first ++ Happening.accepted request event ::
        (second ++ Happening.posted .session (continuation event.thread) (.ok ()) bytes :: third) := by
  obtain ⟨request, event, first, after, rfl, haccepted, hconfirmed⟩ := h
  have hposted : (continuation event.thread, .ok ()) ∈ sessionPosts after :=
    hconfirmed.subset (List.mem_cons_of_mem _ List.mem_cons_self)
  obtain ⟨bytes, hmem⟩ := posted_of_mem_sessionPosts hposted
  obtain ⟨second, third, rfl⟩ := List.append_of_mem hmem
  exact ⟨request, event, first, second, bytes, third, haccepted, rfl⟩

/-- What comes of the stops of an engine that stops on one thread. -/
structure Handover (start : Outbox) (log : List Happening) (s : System) : Prop where
  /-- A wait ends with the thread going on if its stop was released, and only then: a request to go
  on was accepted for the thread after its stop had been put into the table, and both messages got
  through that tell the client so. -/
  returns : ∀ before c goesOn after, log = before ++ .returned c goesOn :: after →
    (goesOn = true ↔ Released c before)
  /-- The session tells a thread to go on when its stop has been released. -/
  resumes : ∀ before c after, log = before ++ .resumed c :: after → Released c before
  /-- A thread goes on after the session told it to. -/
  told : ∀ before c after, log = before ++ .returned c true :: after → .resumed c ∈ before
  /-- Every request that was accepted and confirmed makes one wait end, with the thread going on.
  At the latest this has happened when the session is done with the request and the engine has to
  wait. -/
  continues : ∀ before request event after, log = before ++ .accepted request event :: after →
    Confirmed request event.thread after →
      returnsOn event.resume log <+: [true] ∧
        (s.session.work = [] → s.engine? = none → returnsOn event.resume log = [true])
  /-- No two requests are accepted for the same stop. -/
  distinct : (acceptances log).Pairwise (· < ·)
  /-- What is taken out of the queue is what was put into it, in order. -/
  fifo : ∀ front, front <+: log → takens front <+: enqueueds front
  /-- What the pump posts is made from the item that it took last. -/
  made : ∀ front m result bytes back, log = front ++ .posted .pump m result bytes :: back →
    ∃ item, (takens front).getLast? = some item ∧ m = item.message
  /-- What the pump makes from an item that was put into the queue after the end of a wait, it posts
  after the client was told that the thread goes on. -/
  later : ∀ before c after front m result bytes back, log = before ++ .returned c true :: after →
    log = front ++ .posted .pump m result bytes :: back →
    (enqueueds before).length < (takens front).length →
      ∃ request event first second bytes third, Accepted c request event first ∧
        front = first ++ .accepted request event ::
          (second ++ .posted .session (continuation event.thread) (.ok ()) bytes :: third) ∧
        .returned c true ∈ third
  /-- The wire gets what is posted, in the order in which it is posted. -/
  wire : s.outbox.sink.bytes = start.sink.bytes ++ log.flatMap Happening.bytes

theorem handover_play {script : Script} (decoder : Framing.Decoder) (outbox : Outbox)
    (moves : List Move)
    (h : OnOneThread script (System.play moves (.starting script decoder outbox)).1) :
    Handover outbox (System.play moves (.starting script decoder outbox)).1
      (System.play moves (.starting script decoder outbox)).2 := by
  obtain ⟨hsolo, phase, hpassage, hat⟩ := keeping_play decoder outbox moves h
  have hforwards := forwards_play script decoder outbox moves
  have hwire := System.wire_play moves (.starting script decoder outbox)
  generalize System.play moves (.starting script decoder outbox) = run at *
  obtain ⟨log, s⟩ := run
  dsimp only at *
  have hreturns : ∀ before c goesOn after, log = before ++ .returned c goesOn :: after →
      (goesOn = true ↔ Released c before) := by
    rintro before c goesOn after rfl
    exact hpassage.returned_iff
  refine ⟨hreturns, ?_, ?_, ?_, hpassage.acceptances.1, hforwards.fifo, hforwards.made, ?_, hwire⟩
  · rintro before c after rfl
    exact hpassage.released_of_resumed
  · rintro before c after rfl
    exact hpassage.resumed_of_returned
  · rintro before request event after rfl hconfirmed
    rcases hpassage.returnsOn_of_confirmed hconfirmed with hend | ⟨hnone, report, rfl | rfl⟩
    · exact ⟨hend ▸ List.prefix_rfl, fun _ _ => hend⟩
    · exact ⟨hnone ▸ List.nil_prefix, fun hwork _ => absurd hwork hat.work_ne_nil⟩
    · exact ⟨hnone ▸ List.nil_prefix, fun _ hengine => absurd hengine hat.engine?_ne_none⟩
  · intro before c after front m result bytes back hreturned hposted hlater
    rcases append_eq_split (hposted.symm.trans hreturned) with
      ⟨rest, -, hfront⟩ | ⟨rest, hbefore, -⟩
    · obtain ⟨request, event, first, second, sent, third, haccepted, htold⟩ :=
        ((hreturns before c true after hreturned).mp rfl).told
      refine ⟨request, event, first, second, sent, third ++ .returned c true :: rest, haccepted, ?_,
        List.mem_append_right _ List.mem_cons_self⟩
      rw [hfront, htold]
      simp only [List.append_assoc, List.cons_append]
    · -- the item was put into the queue before the wait ended, as everything taken so far
      have htaken := (hforwards.fifo front ⟨_, hposted.symm⟩).length_le
      rw [hbefore, enqueueds_append, List.length_append] at hlater
      omega

/-- A client that opens a session, lets the program run and has it go on after its first stop. -/
def resumingClient : Framing.Decoder where
  source :=
    { feed :=
        { rest :=
            [ "\x7b\"seq\":1,\"type\":\"request\",\"command\":\"initialize\"," ++
                "\"arguments\":\x7b\"adapterID\":\"a\"\x7d\x7d",
              "\x7b\"seq\":2,\"type\":\"request\",\"command\":\"configurationDone\"\x7d",
              "\x7b\"seq\":3,\"type\":\"request\",\"command\":\"continue\"," ++
                "\"arguments\":\x7b\"threadId\":1\x7d\x7d"].flatMap
              fun text => Framing.frame (Utf8.encode text)
          pace := fun _ => 99 } }

/-- A program that stops once and ends when it goes on. -/
def stopOnce : Script :=
  .stop { thread := 1, reason := "entry" } (.finish (.success 0)) (.finish (.failure .cancelled))

/-- The program stops, the client has it go on, and the end of the program is passed on. -/
def resumption : List Move :=
  turns [(5, .session), (1, .engine), (8, .pump), (8, .session), (4, .engine), (5, .pump)]

/-- What happens then, and what comes of it. -/
def resumptionRun : List Happening × System :=
  System.play resumption (.starting stopOnce resumingClient {})

theorem handover_play_stopOnce :
    OnOneThread stopOnce resumptionRun.1 ∧ acceptances resumptionRun.1 = [0] ∧
      returnsOn 0 resumptionRun.1 = [true] ∧ (takens resumptionRun.1).length = 3 ∧
      Handover {} resumptionRun.1 resumptionRun.2 := by
  have hrun : (∀ x ∈ resumptionRun.1, x.isReport = false) ∧ acceptances resumptionRun.1 = [0] ∧
      returnsOn 0 resumptionRun.1 = [true] ∧ (takens resumptionRun.1).length = 3 := by
    decide +kernel
  obtain ⟨halone, haccepted, hreturned, htaken⟩ := hrun
  have hone : OnOneThread stopOnce resumptionRun.1 := ⟨⟨trivial, trivial⟩, halone⟩
  exact ⟨hone, haccepted, hreturned, htaken, handover_play resumingClient {} resumption hone⟩

end DebugAdapter.Evaluation
