import DebugAdapter.Proofs.Evaluation.Runs.Moves
import DebugAdapter.Proofs.Session.Posting

/-! # What the session hears

A session that hears from its client takes up a message, is opened by it, or comes to its end. The
small parts of its steps have equations of their own. -/

namespace DebugAdapter.Evaluation

open Debuggee Protocol Session

namespace System

/-! ## Parts of steps -/

variable {s t : System}

theorem endWith_work (s : System) (result : Except Error Unit) :
    (s.endWith result).session.work = farewellTasks ∨ (s.endWith result).session.work = [.close] := by
  unfold endWith
  cases s.session.state == State.dispatching with
  | true => exact .inl rfl
  | false => exact .inr rfl

theorem endWith_state (s : System) (result : Except Error Unit) :
    (s.endWith result).session.state =
      if s.session.state = .dispatching then .terminating else s.session.state := by
  unfold endWith
  cases s.session.state <;> rfl

theorem noteIfError_eq {α : Type} (s : System) (result : Except Error α) :
    ∃ problems, s.noteIfError result = { s with session := { s.session with problems } } := by
  cases result with
  | ok => exact ⟨s.session.problems, rfl⟩
  | error e => exact ⟨e :: s.session.problems, rfl⟩

theorem close_eq (s : System) :
    ∃ decoder problems, s.close =
      { s with
        outbox := s.outbox.close.2
        session := { s.session with decoder, problems, state := .closed, work := [] } } := by
  unfold close
  dsimp only
  generalize s.session.decoder.close.1.mapError Error.io = result
  generalize s.session.decoder.close.2 = decoder
  obtain ⟨noted, hnoted⟩ :=
    noteIfError_eq { s with session := { s.session with decoder } } result
  rw [hnoted]
  dsimp only
  generalize s.outbox.close.1.mapError Error.io = result
  cases result <;> exact ⟨_, _, rfl⟩

theorem farewell_eq (s : System) (rest : List Task) :
    ∃ problems, s.perform rest .farewell =
      { s with
        outbox := (s.outbox.event "terminated" none).2
        session := { s.session with problems, work := rest } } := by
  rw [perform]
  generalize s.outbox.event "terminated" none = outcome
  obtain ⟨_ | _, _⟩ := outcome <;> exact ⟨_, rfl⟩

@[simp] theorem outbox_sent (s : System) (work : List Task)
    (outcome : Except Error Unit × Outbox) : (s.sent work outcome).outbox = outcome.2 := by
  obtain ⟨_ | _, _⟩ := outcome <;> rfl

/-! ## What the session hears -/

/-- What a session does that hears from its client: a message is taken up, the session is opened,
or it comes to its end. -/
inductive Heard (s : System) : List Happening → System → Prop where
  | message {m decoder} (hopen : s.session.state = .dispatching)
      (hdecode : s.session.decoder.decode = (.ok m, decoder)) :
      Heard s [.handled m]
        { s with
          outbox := announce m (s.outbox.record (.inbound decoder.lastPayload))
          session := { s.session with decoder, work := planMessage s.session.started m } }
  | opened {m decoder request arguments o o'} (hclosed : s.session.state ≠ .dispatching)
      (hdecode : s.session.decoder.decode = (.ok m, decoder))
      (hrequest : opening? (some m) = .ok (request, arguments))
      (hrecord : o = s.outbox.record (.inbound decoder.lastPayload))
      (hpost : o.post (.response (welcoming request)) = (.ok (), o')) :
      Heard s [.handled m, posting .session (.response (welcoming request)) o (.ok (), o')]
        { s with outbox := o', session := { s.session with decoder, state := .dispatching } }
  | unanswered {m decoder request arguments o e o' state result}
      (hclosed : s.session.state ≠ .dispatching)
      (hstate : state = .closed → s.session.state = .closed)
      (hdecode : s.session.decoder.decode = (.ok m, decoder))
      (hrequest : opening? (some m) = .ok (request, arguments))
      (hrecord : o = s.outbox.record (.inbound decoder.lastPayload))
      (hpost : o.post (.response (welcoming request)) = (.error e, o')) :
      Heard s [.handled m, posting .session (.response (welcoming request)) o (.error e, o')]
        ({ s with outbox := o', session := { s.session with decoder, state } }.endWith result)
  | ended {o decoder state problems result} (hstate : state = .closed → s.session.state = .closed)
      (hsink : o.sink = s.outbox.sink) (hseq : o.seq = s.outbox.seq) :
      Heard s []
        ({ s with outbox := o, session := { s.session with decoder, state, problems } }.endWith result)

/-- Hearing from the client for the first time does not open a session yet. -/
theorem opening_eq_dispatching (state : State) :
    (if state = .created then .opening else state) = State.dispatching ↔ state = .dispatching := by
  cases state <;> decide

theorem heard (h : s.receive? = some t) : Heard s s.hearing t := by
  have hstate : (if s.session.state = .created then .opening else s.session.state) =
      State.closed → s.session.state = .closed := by
    cases s.session.state <;> decide
  unfold receive? at h
  unfold hearing arriving
  generalize hdecode : s.session.decoder.decode = decoded at h ⊢
  obtain ⟨result, decoder⟩ := decoded
  dsimp only at h
  split at h
  · exact nomatch h
  obtain rfl := Option.some.inj h
  cases result with
  | error e =>
    cases e with
    | connectionClosed =>
      dsimp only
      generalize (if s.session.state = .created then .opening else s.session.state) = state at hstate
      unfold arrive
      split <;> exact .ended hstate rfl rfl
    | _ => exact .ended hstate rfl rfl
  | ok m =>
    dsimp only
    unfold arrive
    dsimp only
    simp only [opening_eq_dispatching]
    by_cases hopen : s.session.state = .dispatching
    · rw [if_pos hopen, if_pos hopen]
      have hsame : (if s.session.state = .created then .opening else s.session.state) =
          s.session.state := if_neg (by rw [hopen]; decide)
      rw [hsame]
      exact .message hopen hdecode
    · rw [if_neg hopen, if_neg hopen]
      cases hrequest : opening? (some m) with
      | error reason => exact .ended hstate rfl rfl
      | ok found =>
        obtain ⟨request, arguments⟩ := found
        dsimp only
        rw [Outbox.respondSuccess_eq, ← welcoming]
        rcases hpost : (s.outbox.record (.inbound decoder.lastPayload)).post
          (.response (welcoming request)) with ⟨_ | e, o'⟩
        · exact .unanswered hopen hstate hdecode hrequest rfl hpost
        · exact .opened hopen hdecode hrequest rfl hpost

end System

end DebugAdapter.Evaluation
