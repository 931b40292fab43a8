import DebugAdapter.Framing.Encoder
import DebugAdapter.Proofs.Framing.Header
import DebugAdapter.Proofs.Stream.Untorn

/-! # What an encoder writes

A beginning of a frame reaches the sink, the whole of it when the frame is reported as written.
Nothing that was staged before gets into it. -/

namespace DebugAdapter.Framing.Encoder

variable {e : Encoder}

theorem commit_spec (h : e.sink.Clean) :
    e.commit.2.sink.Clean ∧
      e.commit.2.sink.bytes = e.sink.bytes ++ Sink.takenOf e.staging e.commit.1 := by
  have htook := h.untorn.took e.staging
  have huntorn := h.untorn.writeAll e.staging
  unfold commit
  split
  · rename_i sink heq
    rw [heq] at htook huntorn
    obtain ⟨hok, hflushes⟩ := Sink.flush_of_neverFails (s := sink) (htook.flushes_eq ▸ h.flushes)
    refine ⟨⟨hflushes, huntorn.flush⟩, ?_⟩
    dsimp only
    rw [hok, Sink.bytes_flush]
    exact htook.bytes_eq
  · rename_i error sink heq
    rw [heq] at htook huntorn
    exact ⟨⟨htook.flushes_eq ▸ h.flushes, huntorn⟩, htook.bytes_eq⟩

/-- What a frame that was handed to a sink has left in it. -/
structure Grew (block : Bytes) (s : Sink) (result : Except IoError Unit) (s' : Sink)
    (taken : Bytes) : Prop where
  bytes_eq : s'.bytes = s.bytes ++ taken
  begins : taken <+: block
  /-- What is reported as written was taken. -/
  of_ok : result = .ok () → taken = block
  /-- What was taken is reported as written, unless it cannot be flushed. -/
  of_taken : taken = block → s.flushes.NeverFails → result = .ok ()

/-- A beginning of what is staged is written, whether it is flushed after that or not. -/
theorem commit_grew (e : Encoder) :
    ∃ taken, Grew e.staging e.sink e.commit.1 e.commit.2.sink taken := by
  obtain ⟨taken, htook, hprefix, hiff⟩ := e.sink.writeAll_spec e.staging
  refine ⟨taken, ?_⟩
  unfold commit
  split
  · rename_i sink heq
    rw [heq] at htook hiff
    refine ⟨sink.bytes_flush.trans htook.bytes_eq, hprefix, fun _ => hiff.mp rfl, ?_⟩
    intro _ hflushes
    exact (Sink.flush_of_neverFails (s := sink) (htook.flushes_eq ▸ hflushes)).1
  · rename_i error sink heq
    rw [heq] at htook hiff
    exact ⟨htook.bytes_eq, hprefix, nofun, fun htaken => nomatch hiff.mpr htaken⟩

/-- Staging starts afresh, so what is written is the frame of the payload and nothing else. -/
theorem staging_stage (payload : Bytes) (e : Encoder) :
    (e.clear.stage (header payload.length) |>.stage payload).staging = frame payload := by
  rw [stage, stage, clear, frame, List.nil_append]

theorem frame_ne_nil (payload : Bytes) : frame payload ≠ [] := by
  have hpos := length_header_pos payload.length
  rw [frame]
  exact List.append_ne_nil_of_left_ne_nil (List.ne_nil_of_length_pos hpos) payload

theorem writeFrame_spec (payload : Bytes) (h : e.sink.Clean) :
    (e.writeFrame payload).2.sink.Clean ∧
      (e.writeFrame payload).2.sink.bytes =
        e.sink.bytes ++ Sink.takenOf (frame payload) (e.writeFrame payload).1 := by
  rw [← staging_stage payload e]
  exact commit_spec h

theorem writeFrame_grew (payload : Bytes) (e : Encoder) :
    ∃ taken, Grew (frame payload) e.sink (e.writeFrame payload).1 (e.writeFrame payload).2.sink
      taken := by
  rw [← staging_stage payload e]
  exact commit_grew _

theorem neverFails_writeFrame (payload : Bytes) (h : e.sink.flushes.NeverFails) :
    (e.writeFrame payload).2.sink.flushes.NeverFails := by
  have hstaged : (e.clear.stage (header payload.length) |>.stage payload).sink = e.sink := rfl
  obtain ⟨taken, htook, -⟩ := e.sink.writeAll_spec (frame payload)
  rw [writeFrame, commit, hstaged, staging_stage]
  split <;> rename_i sink heq <;> rw [heq] at htook
  · exact (Sink.flush_of_neverFails (s := sink) (htook.flushes_eq ▸ h)).2
  · exact htook.flushes_eq ▸ h

theorem prefix_writeFrame (payload : Bytes) (e : Encoder) :
    e.sink.bytes <+: (e.writeFrame payload).2.sink.bytes := by
  obtain ⟨taken, hgrew⟩ := writeFrame_grew payload e
  exact ⟨taken, hgrew.bytes_eq.symm⟩

/-- A frame that is reported as written is on the wire, however often the sink has failed. -/
theorem writeFrame_of_ok {e' : Encoder} {payload : Bytes}
    (h : e.writeFrame payload = (.ok (), e')) :
    e'.sink.bytes = e.sink.bytes ++ frame payload := by
  obtain ⟨taken, hgrew⟩ := writeFrame_grew payload e
  rw [h] at hgrew
  exact hgrew.of_ok rfl ▸ hgrew.bytes_eq

theorem commit_of_accepts (h : e.sink.Accepts) :
    ∃ e', e.commit = (.ok (), e') ∧ e'.sink.Accepts ∧
      e'.sink.bytes = e.sink.bytes ++ e.staging := by
  obtain ⟨sink, hwrite, hsink, hbytes⟩ := h.writeAll e.staging
  obtain ⟨sink', hflush, hsink', hbytes'⟩ := hsink.flush
  refine ⟨{ e with sink := sink' }, ?_, hsink', hbytes'.trans hbytes⟩
  rw [commit, hwrite]
  dsimp only
  rw [hflush]

theorem writeFrame_of_accepts (payload : Bytes) (h : e.sink.Accepts) :
    ∃ e', e.writeFrame payload = (.ok (), e') ∧ e'.sink.Accepts ∧
      e'.sink.bytes = e.sink.bytes ++ frame payload := by
  rw [← staging_stage payload e]
  exact commit_of_accepts h

theorem writeFrame_of_detached (payload : Bytes) (h : e.sink.attached = false) :
    ∃ e', e.writeFrame payload = (.error .brokenPipe, e') ∧ e'.sink = e.sink := by
  have hstaged : (e.clear.stage (header payload.length) |>.stage payload).sink = e.sink := rfl
  rw [writeFrame, commit, hstaged, staging_stage,
    Sink.writeAll_of_detached (frame_ne_nil payload) h]
  exact ⟨_, rfl, rfl⟩

/-! ## Many frames -/

/-- Writes payloads as frames, one after the other. -/
def writeFrames (payloads : List Bytes) (e : Encoder) : Encoder :=
  payloads.foldl (fun e payload => (e.writeFrame payload).2) e

theorem writeFrames_of_accepts (payloads : List Bytes) (h : e.sink.Accepts) :
    (e.writeFrames payloads).sink.bytes = e.sink.bytes ++ payloads.flatMap frame := by
  induction payloads generalizing e with
  | nil => exact (List.append_nil _).symm
  | cons payload rest ih =>
    obtain ⟨e', hwrite, haccepts, hbytes⟩ := writeFrame_of_accepts payload h
    rw [writeFrames, List.foldl_cons, hwrite, ← writeFrames, ih haccepts, hbytes,
      List.flatMap_cons, List.append_assoc]

end DebugAdapter.Framing.Encoder
