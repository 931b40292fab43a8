import DebugAdapter.Proofs.Session.Lifecycle
import DebugAdapter.Proofs.Session.Posting
import DebugAdapter.Proofs.Session.Repeats
import DebugAdapter.Proofs.Stream.Hearing

/-! # What is sent after a session

The clones of the sending side outlive their session. A session closes its sink at the end, so what
they send then should reach nobody. But the sink is flushed before it is closed, and it stays open
when that fails: then the clones are heard as before. -/

namespace DebugAdapter

/-! ## Frames and sinks that hear -/

namespace Framing.Encoder

variable {e : Encoder} {payload : Bytes}

theorem hears_of_writeFrame (payload : Bytes)
    (h : (e.writeFrame payload).2.sink.Hears ∨
      (e.writeFrame payload).2.sink.bytes ≠ e.sink.bytes) : e.sink.Hears := by
  have hstaged : (e.clear.stage (header payload.length) |>.stage payload).sink = e.sink := rfl
  rw [writeFrame, commit, hstaged] at h
  apply Sink.Hears.of_writeAll
  split at h <;> rename_i sink heq <;> rw [heq]
  · rwa [Sink.bytes_flush, Sink.hears_flush] at h
  · exact h

/-- A sink that hears takes some of the frame, or it gets nearer to doing so. -/
theorem writeFrame_of_hears (h : e.sink.Hears) (payload : Bytes) :
    (e.writeFrame payload).2.sink.bytes ≠ e.sink.bytes ∨
      ∃ error e', e.writeFrame payload = (.error error, e') ∧ Sink.Nearer e.sink e'.sink := by
  have hstaged : (e.clear.stage (header payload.length) |>.stage payload).sink = e.sink := rfl
  rw [writeFrame, commit, hstaged, staging_stage]
  rcases h.writeAll (frame_ne_nil payload) with hgrown | ⟨error, sink, heq, hnearer⟩
  · left
    split <;> rename_i sink heq <;> rw [heq] at hgrown
    · rwa [← Sink.bytes_flush sink] at hgrown
    · exact hgrown
  · right
    rw [heq]
    exact ⟨error, _, rfl, hnearer⟩

end Framing.Encoder

namespace Session

open Protocol

/-! ## Outboxes that can be heard -/

/-- Whatever is sent through the outbox, by whomever, not a byte of it gets out. -/
def Silent (o : Outbox) : Prop := ∀ turns, (runTurns turns o).2.sink.bytes = o.sink.bytes

/-- A message can still get out: there is a number for it, and the sink hears. -/
structure Outbox.Audible (o : Outbox) : Prop where
  number : 0 < Int64.ofNat (o.seq + 1)
  hears : o.sink.Hears

theorem audible_of_send {m : Message} {o : Outbox}
    (h : (o.send m).2.Audible ∨ (o.send m).2.sink.bytes ≠ o.sink.bytes) : o.Audible := by
  unfold Outbox.send at h
  dsimp only at h
  split at h
  · simpa using h
  · rename_i payload hpayload
    have hnumber := (Message.toPayload_ok hpayload).1
    rw [seq_withSeq] at hnumber
    refine ⟨hnumber, Framing.Encoder.hears_of_writeFrame payload ?_⟩
    split at h <;> rename_i encoder heq <;> rw [heq]
    · exact h.imp_left (·.hears)
    · exact h.imp_left (·.hears)

theorem audible_of_perform {c : Call} {o : Outbox}
    (h : (c.perform o).2.Audible ∨ (c.perform o).2.sink.bytes ≠ o.sink.bytes) : o.Audible := by
  have hseq : (c.prepare o).seq = o.seq := by cases c <;> rfl
  have hsink : (c.prepare o).sink = o.sink := by cases c <;> rfl
  rw [Call.perform_eq, ← hsink] at h
  have haudible := audible_of_send h
  exact ⟨hseq ▸ haudible.number, hsink ▸ haudible.hears⟩

/-- What cannot be heard now will never be heard. -/
theorem silent_of_not_audible {o : Outbox} (h : ¬ o.Audible) : Silent o := by
  intro turns
  induction turns generalizing o with
  | nil => rfl
  | cons turn turns ih =>
    obtain ⟨hstill, hbytes⟩ := not_or.mp (mt (audible_of_perform (c := turn.call)) h)
    rw [runTurns_cons, ih hstill, Classical.not_not.mp hbytes]

/-- An event without a body. -/
def signal : Call := .event "process" none

theorem signal_of_audible {o : Outbox} (h : o.Audible) :
    (signal.perform o).2.sink.bytes ≠ o.sink.bytes ∨
      (signal.perform o).2.seq = o.seq ∧ o.sink.Nearer (signal.perform o).2.sink := by
  have hsendable : signal.message.Sendable := Event.sendable (by decide) (by simp)
  obtain ⟨payload, hpayload⟩ := hsendable _ h.number
  have hperform : (signal.perform o).2 = (o.send signal.message).2 := rfl
  rw [hperform, Outbox.send, hpayload]
  dsimp only
  rcases Framing.Encoder.writeFrame_of_hears h.hears payload with
    hgrown | ⟨e, e', hwrite, hnearer⟩
  · left
    split <;> rename_i encoder heq <;> rw [heq] at hgrown <;> exact hgrown
  · right
    rw [hwrite]
    exact ⟨rfl, hnearer⟩

/-- One clone that keeps sending is heard in the end. -/
theorem not_silent_of_audible {o : Outbox} (h : o.Audible) : ¬ Silent o := by
  suffices hheard : ∃ turns, (runTurns turns o).2.sink.bytes ≠ o.sink.bytes by
    obtain ⟨turns, hne⟩ := hheard
    exact fun hsilent => hne (hsilent turns)
  -- A signal that is not heard uses up one of the failures before the first success.
  generalize hn : o.sink.writes.first.length = n
  induction n using Nat.strongRecOn generalizing o with
  | ind n ih =>
    rcases signal_of_audible h with hgrown | ⟨hseq, hnearer⟩
    · exact ⟨[⟨0, signal⟩], hgrown⟩
    · obtain ⟨turns, hne⟩ := ih _ (hn ▸ hnearer.length_lt) ⟨hseq ▸ h.number, hnearer.hears⟩ rfl
      refine ⟨⟨0, signal⟩ :: turns, ?_⟩
      rw [runTurns_cons]
      rwa [hnearer.bytes_eq] at hne

theorem silent_iff (o : Outbox) : Silent o ↔ ¬ o.Audible :=
  ⟨fun hsilent haudible => not_silent_of_audible haudible hsilent, silent_of_not_audible⟩

/-- An outbox that was closed is silent, unless it was closed in vain. -/
theorem silent_close_iff (o : Outbox) :
    Silent o.close.2 ↔ o.sink.flush.1 = .ok () ∨ ¬ o.Audible := by
  have hhears : o.close.2.sink.Hears ↔ o.sink.flush.1 ≠ .ok () ∧ o.sink.Hears :=
    o.sink.hears_close
  have haudible : o.close.2.Audible ↔ o.sink.flush.1 ≠ .ok () ∧ o.Audible := by
    constructor
    · intro h
      obtain ⟨hflush, hsink⟩ := hhears.mp h.hears
      exact ⟨hflush, h.number, hsink⟩
    · intro ⟨hflush, h⟩
      exact ⟨h.number, hhears.mpr ⟨hflush, h.hears⟩⟩
  rw [silent_iff, haudible, Classical.not_and_iff_not_or_not, Classical.not_not]

/-! ## The end of a session -/

variable {σ : Type}

/-- However a session goes, closing the connection is the last that it does. -/
theorem exists_close {s : Session σ} (hcreated : s.state = .created) :
    ∃ u : Session σ, s.run.2 = { u.close with state := .closed } := by
  rcases hhandshake : ({ s with state := .opening } : Session σ).handshake with ⟨e | _, t⟩
  · exact ⟨t, by rw [run_refused hcreated hhandshake]⟩
  · rw [run_served hcreated hhandshake rfl]
    exact ⟨_, rfl⟩

theorem mem_problems_close {s : Session σ} {e : IoError} (h : s.outbox.close.1 = .error e) :
    .io e ∈ s.close.problems := by
  rw [close_eq, h]
  exact List.mem_append_left _ (List.mem_append_left _ List.mem_cons_self)

/-- Whatever the client sent, however the handler behaved and whichever reads, writes and flushes
failed: after the run of a session its clones are silent if and only if the last flush succeeded or
nothing could be heard from them before. When it failed, the session has noted that. -/
theorem silent_run_iff {s : Session σ} (hcreated : s.state = .created) :
    s.run.2.state = .closed ∧ ∃ u : Session σ, s.run.2 = { u.close with state := .closed } ∧
      (Silent s.run.2.outbox ↔ u.outbox.sink.flush.1 = .ok () ∨ ¬ u.outbox.Audible) ∧
      ∀ e, u.outbox.sink.flush.1 = .error e → .io e ∈ s.run.2.errors := by
  obtain ⟨u, hrun⟩ := exists_close hcreated
  have houtbox : s.run.2.outbox = u.outbox.close.2 := by rw [hrun, close_eq]
  refine ⟨by rw [hrun], u, hrun, ?_, ?_⟩
  · rw [houtbox]
    exact silent_close_iff u.outbox
  · intro e hflush
    have hclose : u.outbox.close.1 = .error e :=
      congrArg (·.1) (Sink.close_of_flush_error hflush)
    have hproblems := mem_problems_close hclose
    rw [hrun]
    exact List.mem_reverse.mpr hproblems

/-- A handler that does nothing and wants all messages. -/
def idle : Handler Unit where
  welcome _ x := (.ok {}, x)
  process _ x := (.ok .proceed, x)
  terminate x := x

/-- A client that hangs up at once. -/
def hangup : Framing.Decoder where
  source := { feed := { rest := [], pace := fun _ => 0 } }

/-- When the flushes work, nobody hears the clones after the client has hung up. -/
theorem silent_run_iff_hangup :
    (fresh "p" hangup {} idle ()).state = .created ∧
      Silent (fresh "p" hangup {} idle ()).run.2.outbox := by
  refine ⟨rfl, ?_⟩
  obtain ⟨-, u, hrun, hsilent, hnoted⟩ := silent_run_iff (s := fresh "p" hangup {} idle ()) rfl
  apply hsilent.mpr
  left
  have herrors : (fresh "p" hangup {} idle ()).run.2.errors =
      [.handshake "connection closed"] := by decide +kernel
  cases hflush : u.outbox.sink.flush.1 with
  | ok => rfl
  | error e =>
    have hmem := hnoted e hflush
    simp [herrors] at hmem

/-- When no flush succeeds, the session is over and an event that a clone sends gets out all the
same. -/
theorem not_silent_unflushable :
    (fresh "p" hangup unflushableOutbox idle ()).run.2.state = .closed ∧
      (runTurns [⟨0, signal⟩] (fresh "p" hangup unflushableOutbox idle ()).run.2.outbox
          ).2.sink.received =
        [Framing.frame (Utf8.encode
          "\x7b\"seq\":1,\"type\":\"event\",\"event\":\"process\"\x7d")] ∧
      ¬ Silent (fresh "p" hangup unflushableOutbox idle ()).run.2.outbox := by
  have hreceived : (runTurns [⟨0, signal⟩]
      (fresh "p" hangup unflushableOutbox idle ()).run.2.outbox).2.sink.received =
        [Framing.frame (Utf8.encode
          "\x7b\"seq\":1,\"type\":\"event\",\"event\":\"process\"\x7d")] := by
    decide +kernel
  refine ⟨by decide +kernel, hreceived, fun hsilent => ?_⟩
  have hbytes := hsilent [⟨0, signal⟩]
  rw [Sink.bytes, hreceived] at hbytes
  exact absurd hbytes (by decide +kernel)

end Session

end DebugAdapter
