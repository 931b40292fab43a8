import DebugAdapter.Proofs.Evaluation.Runs.Actors

/-! # The wire

In every run the wire gets the bytes of what is posted, in the order in which it is posted, and a
message that got through is on it as one frame. -/

namespace DebugAdapter.Evaluation

open Debuggee Protocol Session

namespace System

variable {s t : System}

theorem wire_post (sender : Actor) (m : Message) {o : Outbox} {outcome : Except Error Unit × Outbox}
    (h : o.post m = outcome) :
    outcome.2.sink.bytes = o.sink.bytes ++ (posting sender m o outcome).bytes := by
  subst h
  exact (List.prefix_iff_eq_append.mp (o.prefix_post m)).symm

theorem wire_heard {log : List Happening} (h : Heard s log t) :
    t.outbox.sink.bytes = s.outbox.sink.bytes ++ log.flatMap Happening.bytes := by
  cases h with
  | @message m _ _ _ =>
    refine Eq.trans ?_ (List.append_nil _).symm
    cases m <;> rfl
  | opened _ _ _ hrecord hpost | unanswered _ _ _ _ hrecord hpost =>
    rw [List.flatMap_cons, List.flatMap_singleton]
    subst hrecord
    exact wire_post .session _ hpost
  | ended _ hsink => exact (congrArg Sink.bytes hsink).trans (List.append_nil _).symm

theorem wire_perform (s : System) (rest : List Task) (task : Task) :
    (s.perform rest task).outbox.sink.bytes =
      s.outbox.sink.bytes ++ (s.performing task).flatMap Happening.bytes := by
  cases task with
  | send m =>
    rw [perform, outbox_sent, performing, List.flatMap_singleton]
    exact wire_post .session m rfl
  | fail request text =>
    rw [perform, outbox_sent, performing, List.flatMap_singleton]
    obtain ⟨journal, hrespond⟩ := s.outbox.respondError_eq request text
    rw [hrespond]
    exact wire_post .session _ (o := { s.outbox with journal }) rfl
  | farewell =>
    obtain ⟨problems, hfarewell⟩ := s.farewell_eq rest
    rw [hfarewell, performing, List.flatMap_singleton, Outbox.event_eq]
    exact wire_post .session _ rfl
  | close =>
    obtain ⟨decoder, problems, hclose⟩ := s.close_eq
    refine Eq.trans ?_ (List.append_nil _).symm
    rw [perform, hclose]
    exact Sink.bytes_close s.outbox.sink
  | release request arguments =>
    have hnone : (s.performing (.release request arguments)).flatMap Happening.bytes = [] := by
      rw [performing]
      cases s.registries.events.get? arguments.threadId <;> rfl
    rw [hnone, List.append_nil, perform]
    split <;> rfl
  | resume =>
    have hnone : (s.performing .resume).flatMap Happening.bytes = [] := by
      rw [performing]
      cases s.session.held <;> rfl
    rw [hnone, List.append_nil]
    rfl
  | start | findStop | findFrames | decide =>
    refine Eq.trans ?_ (List.append_nil _).symm
    unfold perform
    dsimp only
    split <;> rfl
  | cancel | findScopes | findVariables | purgeEvents | purgeFrames | purgeVariables =>
    exact (List.append_nil _).symm

theorem wire_pump (h : s.pump? = some t) :
    t.outbox.sink.bytes = s.outbox.sink.bytes ++ s.pumpHappenings.flatMap Happening.bytes := by
  cases pumpStep h with
  | takes _ _ hmore =>
    rw [hmore]
    exact (List.append_nil _).symm
  | @performs task rest hpump =>
    rw [pumpHappenings, hpump]
    cases task with
    | send m =>
      rw [List.flatMap_singleton]
      exact wire_post .pump m rfl
    | record report resume ids scopes frames =>
      refine Eq.trans ?_ (List.append_nil _).symm
      cases frames with
      | nil => rfl
      | cons frame frames =>
        unfold pumpPerform
        dsimp only
        split <;> rfl
    | _ => exact (List.append_nil _).symm

/-- The engine adds nothing to the wire. -/
theorem bytes_of_engine {log : List Happening} (h : ∀ x ∈ log, x.IsOfEngine) :
    log.flatMap Happening.bytes = [] :=
  List.flatMap_eq_nil_iff.mpr fun x hx => (h x hx).bytes_eq

theorem wire_move {move : Move} (h : s.move? move = some t) :
    t.outbox.sink.bytes =
      s.outbox.sink.bytes ++ (s.happenings move).flatMap Happening.bytes := by
  cases moved h with
  | session hstep =>
    have hstep := sessionStep hstep
    rw [happenings]
    generalize s.sessionHappenings = more at hstep
    cases hstep with
    | performs => exact s.wire_perform _ _
    | hears _ _ hreceive => exact wire_heard (heard hreceive)
  | pump hstep => exact wire_pump hstep
  | engine hkept hmore => rw [hkept.outbox_eq, bytes_of_engine hmore, List.append_nil]
  | client hmore => rw [hmore, List.flatMap_nil, List.append_nil]

/-- The wire gets the bytes of what is posted, in the order in which it is posted. -/
theorem wire_play (moves : List Move) (s : System) :
    (play moves s).2.outbox.sink.bytes =
      s.outbox.sink.bytes ++ (play moves s).1.flatMap Happening.bytes := by
  refine play_induction (P := fun log t =>
    t.outbox.sink.bytes = s.outbox.sink.bytes ++ log.flatMap Happening.bytes)
    (List.append_nil _).symm ?_ moves
  intro log t move u hlog hmove
  rw [wire_move hmove, hlog, List.flatMap_append, List.append_assoc]

theorem framed_posting (sender : Actor) {m : Message} {o : Outbox}
    {outcome : Except Error Unit × Outbox} (h : o.post m = outcome) :
    (posting sender m o outcome).IsFramed := by
  subst h
  rw [posting, Outbox.post, Outbox.send]
  dsimp only
  cases hpayload : (m.withSeq (Int64.ofNat (o.seq + 1))).toPayload with
  | error e => exact trivial
  | ok payload =>
    dsimp only
    cases hwrite : o.encoder.writeFrame payload with
    | mk result encoder =>
      cases result with
      | error e => exact trivial
      | ok =>
        refine ⟨_, payload, hpayload, ?_⟩
        exact (congrArg (List.drop _) (Framing.Encoder.writeFrame_of_ok hwrite)).trans List.drop_left

theorem framed_heard {log : List Happening} (h : Heard s log t) : ∀ x ∈ log, x.IsFramed := by
  cases h with
  | message => exact List.forall_mem_singleton.mpr trivial
  | opened _ _ _ _ hpost | unanswered _ _ _ _ _ hpost =>
    exact List.forall_mem_cons.mpr
      ⟨trivial, List.forall_mem_singleton.mpr (framed_posting .session hpost)⟩
  | ended => exact fun _ hx => absurd hx List.not_mem_nil

theorem framed_performing (s : System) (task : Task) : ∀ x ∈ s.performing task, x.IsFramed := by
  cases task with
  | send m => exact List.forall_mem_singleton.mpr (framed_posting .session rfl)
  | fail request text =>
    obtain ⟨journal, hrespond⟩ := s.outbox.respondError_eq request text
    rw [performing, hrespond]
    exact List.forall_mem_singleton.mpr
      (framed_posting .session (o := { s.outbox with journal }) rfl)
  | farewell =>
    rw [performing, Outbox.event_eq]
    exact List.forall_mem_singleton.mpr (framed_posting .session rfl)
  | release request arguments =>
    rw [performing]
    cases s.registries.events.get? arguments.threadId with
    | none => exact fun _ hx => absurd hx List.not_mem_nil
    | some event => exact List.forall_mem_singleton.mpr trivial
  | resume =>
    rw [performing]
    cases s.session.held with
    | none => exact fun _ hx => absurd hx List.not_mem_nil
    | some event => exact List.forall_mem_singleton.mpr trivial
  | start | cancel | findStop | findFrames | findScopes | findVariables | purgeEvents |
    purgeFrames | purgeVariables | decide | close => exact fun _ hx => absurd hx List.not_mem_nil

theorem framed_pump (s : System) : ∀ x ∈ s.pumpHappenings, x.IsFramed := by
  rw [pumpHappenings]
  split
  · exact List.forall_mem_singleton.mpr (framed_posting .pump rfl)
  · exact List.forall_mem_singleton.mpr trivial
  · exact fun _ hx => absurd hx List.not_mem_nil
  · cases s.queue.items.head? with
    | none => exact fun _ hx => absurd hx List.not_mem_nil
    | some item => exact List.forall_mem_singleton.mpr trivial

theorem framed_of_engine {log : List Happening} (h : ∀ x ∈ log, x.IsOfEngine) :
    ∀ x ∈ log, x.IsFramed := by
  intro x hx
  cases x with
  | enqueued | reported | returned => exact trivial
  | _ => exact (h _ hx).elim

theorem framed_move {move : Move} (h : s.move? move = some t) :
    ∀ x ∈ s.happenings move, x.IsFramed := by
  cases moved h with
  | session hstep =>
    have hstep := sessionStep hstep
    rw [happenings]
    generalize s.sessionHappenings = more at hstep
    cases hstep with
    | performs => exact s.framed_performing _
    | hears _ _ hreceive => exact framed_heard (heard hreceive)
  | pump => exact s.framed_pump
  | engine _ hmore => exact framed_of_engine hmore
  | client hmore =>
    rw [hmore]
    exact fun _ hx => absurd hx List.not_mem_nil

/-- Every message that got through is on the wire as one frame. -/
theorem framed_play (moves : List Move) (s : System) : ∀ x ∈ (play moves s).1, x.IsFramed := by
  refine play_induction (P := fun log _ => ∀ x ∈ log, x.IsFramed)
    (fun _ hx => absurd hx List.not_mem_nil) ?_ moves
  exact fun _ _ _ _ h hmove => List.forall_mem_append.mpr ⟨h, framed_move hmove⟩

end System

end DebugAdapter.Evaluation
