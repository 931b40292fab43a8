import DebugAdapter.Proofs.Session.Sequence

/-! # Numbers that come twice

A message uses up its number only when its frame was written and flushed. When the flush fails, the
frame has reached the other side all the same, and the next frame gets the same number. This is the only
way in which two frames get one number: a message that may not be sent leaves nothing, and a write that
fails leaves a beginning of a frame, which is no frame. -/

namespace DebugAdapter.Session

open Protocol

/-! ## Numbers that frames bear -/

/-- What was written is a frame whose message has the number. -/
def Bears (k : Nat) (written : Bytes) : Prop :=
  ∃ payload, written = Framing.frame payload ∧ Carries k payload

/-- No two frames bear one number. -/
def Apart (frames : List Bytes) : Prop :=
  frames.Pairwise fun earlier later => ∀ k, Bears k earlier → ¬ Bears k later

theorem Carries.unique {j k : Nat} {payload : Bytes} (hj : Carries j payload)
    (hk : Carries k payload) : j = k := by
  obtain ⟨first, hfirst⟩ := hj
  obtain ⟨second, hsecond⟩ := hk
  have heq := hfirst.symm.trans hsecond
  rw [List.append_assoc, List.append_assoc] at heq
  exact (Decimal.eq_of_encode_append (by decide) (by decide) (List.append_cancel_left heq)).1

theorem Bears.unique {j k : Nat} {written : Bytes} (hj : Bears j written) (hk : Bears k written) :
    j = k := by
  obtain ⟨p, rfl, hp⟩ := hj
  obtain ⟨q, hframe, hq⟩ := hk
  rw [Framing.frame_injective hframe] at hp
  exact hp.unique hq

/-- A frame stands apart from frames with greater numbers. -/
theorem apart_cons_of_lt {k : Nat} {frame : Bytes} {frames : List Bytes} (hframe : Bears k frame)
    (hgreater : ∀ later ∈ frames, ∃ j, k < j ∧ Bears j later) :
    Apart (frame :: frames) ↔ Apart frames := by
  refine ⟨fun h => (List.pairwise_cons.mp h).2, fun h => List.pairwise_cons.mpr ⟨?_, h⟩⟩
  intro later hmem i hi hlater
  obtain ⟨j, hlt, hj⟩ := hgreater later hmem
  have hik : i = k := hi.unique hframe
  have hij : i = j := hlater.unique hj
  omega

/-! ## What calls leave on the wire -/

/-- Some bytes are a whole frame. -/
def isFrame (bytes : Bytes) : Bool :=
  (List.range (bytes.length + 1)).any fun n => bytes == Framing.frame (bytes.drop n)

theorem isFrame_iff {bytes : Bytes} :
    isFrame bytes = true ↔ ∃ payload, bytes = Framing.frame payload := by
  rw [isFrame, List.any_eq_true]
  constructor
  · rintro ⟨n, -, hn⟩
    exact ⟨_, eq_of_beq hn⟩
  · rintro ⟨payload, rfl⟩
    refine ⟨(Framing.header payload.length).length, ?_, ?_⟩
    · rw [List.mem_range, Framing.length_frame]
      omega
    · rw [Framing.frame, List.drop_left, ← Framing.frame]
      exact beq_self_eq_true _

/-- A frame that is cut off is no frame. -/
theorem not_isFrame_of_cut {chunk payload : Bytes} (hbegins : chunk <+: Framing.frame payload)
    (hne : chunk ≠ Framing.frame payload) : isFrame chunk = false := by
  rw [Bool.eq_false_iff]
  intro hframe
  obtain ⟨other, rfl⟩ := isFrame_iff.mp hframe
  obtain ⟨rest, hrest⟩ := hbegins
  obtain ⟨rfl, -⟩ := Framing.eq_of_frame_append hrest
  exact hne rfl

/-- What a call adds to the wire. -/
def Turn.chunk (turn : Turn) (o : Outbox) : Bytes :=
  (turn.call.perform o).2.sink.bytes.drop o.sink.bytes.length

/-- What each call of a run adds to the wire. -/
def chunks : List Turn → Outbox → List Bytes
  | [], _ => []
  | turn :: turns, o => turn.chunk o :: chunks turns (turn.call.perform o).2

/-- The whole frames that a run adds to the wire. -/
def completeFrames (turns : List Turn) (o : Outbox) : List Bytes := (chunks turns o).filter isFrame

/-- What a call leaves on the wire, by how it ends. -/
inductive Leaves (o : Outbox) : Except Error (Option Int64) → Outbox → Prop where
  /-- No frame was taken as a whole. -/
  | cut {e o' chunk payload} (hseq : o'.seq = o.seq)
      (hbytes : o'.sink.bytes = o.sink.bytes ++ chunk) (hbegins : chunk <+: Framing.frame payload)
      (hne : chunk ≠ Framing.frame payload) : Leaves o (.error e) o'
  /-- A frame was taken and flushed, and its number is used up. -/
  | flushed {number frame o'} (hseq : o'.seq = o.seq + 1) (hlt : o'.seq < 2 ^ 63)
      (hframe : Bears (o.seq + 1) frame) (hbytes : o'.sink.bytes = o.sink.bytes ++ frame) :
      Leaves o (.ok number) o'
  /-- A frame was taken and not flushed, and its number is still free. -/
  | unflushed {e frame o'} (hseq : o'.seq = o.seq) (hfails : ¬ o.sink.flushes.NeverFails)
      (hframe : Bears (o.seq + 1) frame) (hbytes : o'.sink.bytes = o.sink.bytes ++ frame) :
      Leaves o (.error e) o'

theorem Leaves.refused {o o' : Outbox} {e : Error} (hseq : o'.seq = o.seq)
    (hbytes : o'.sink.bytes = o.sink.bytes) : Leaves o (.error e) o' :=
  .cut hseq (hbytes.trans (List.append_nil _).symm) List.nil_prefix
    (Framing.Encoder.frame_ne_nil []).symm

theorem send_leaves (m : Message) {o : Outbox} (hseq : o.seq < 2 ^ 63)
    (reply : Int64 → Option Int64) : Leaves o ((o.send m).1.map reply) (o.send m).2 := by
  unfold Outbox.send
  dsimp only
  cases hpayload : (m.withSeq (Int64.ofNat (o.seq + 1))).toPayload with
  | error e => exact .refused rfl rfl
  | ok payload =>
    have hnumbered := numbered_of_toPayload hseq hpayload
    have hframe : Bears (o.seq + 1) (Framing.frame payload) := ⟨payload, rfl, hnumbered.carries⟩
    obtain ⟨taken, hgrew⟩ := Framing.Encoder.writeFrame_grew payload o.encoder
    dsimp only
    rcases hwrite : o.encoder.writeFrame payload with ⟨error | _, encoder⟩
    · rw [hwrite] at hgrew
      by_cases htaken : taken = Framing.frame payload
      · subst htaken
        have hfails : ¬ o.sink.flushes.NeverFails := fun hnever => nomatch hgrew.of_taken rfl hnever
        have hleaves : Leaves o (.error (.io error)) { o with encoder } :=
          .unflushed rfl hfails hframe hgrew.bytes_eq
        exact hleaves
      · have hleaves : Leaves o (.error (.io error)) { o with encoder } :=
          .cut rfl hgrew.bytes_eq hgrew.begins htaken
        exact hleaves
    · rw [hwrite] at hgrew
      have hleaves : Leaves o (.ok (reply (Int64.ofNat (o.seq + 1))))
          { encoder, seq := o.seq + 1, journal := o.journal.record (.outbound payload) } :=
        .flushed rfl (lt_of_numbered hnumbered) hframe (hgrew.of_ok rfl ▸ hgrew.bytes_eq)
      exact hleaves

theorem Call.leaves (c : Call) {o : Outbox} (hseq : o.seq < 2 ^ 63) :
    Leaves o (c.perform o).1 (c.perform o).2 := by
  have hsame : (c.prepare o).seq = o.seq ∧ (c.prepare o).sink = o.sink := by
    cases c <;> exact ⟨rfl, rfl⟩
  have hleaves := send_leaves c.message (hsame.1 ▸ hseq) c.reply
  rw [perform_eq]
  generalize (Except.map c.reply ((c.prepare o).send c.message).1) = result at hleaves ⊢
  generalize ((c.prepare o).send c.message).2 = o' at hleaves ⊢
  cases hleaves with
  | cut hseq' hbytes hbegins hne =>
    rw [hsame.2] at hbytes
    exact .cut (hseq'.trans hsame.1) hbytes hbegins hne
  | flushed hseq' hlt hframe hbytes =>
    rw [hsame.1] at hseq' hframe
    rw [hsame.2] at hbytes
    exact .flushed hseq' hlt hframe hbytes
  | unflushed hseq' hfails hframe hbytes =>
    rw [hsame.1] at hseq' hframe
    rw [hsame.2] at hfails hbytes
    exact .unflushed hseq' hfails hframe hbytes

theorem Turn.chunk_eq {turn : Turn} {o o' : Outbox} {result : Except Error (Option Int64)}
    {chunk : Bytes} (hperform : turn.call.perform o = (result, o'))
    (hbytes : o'.sink.bytes = o.sink.bytes ++ chunk) : turn.chunk o = chunk := by
  rw [Turn.chunk, hperform, hbytes, List.drop_left]

theorem Bears.isFrame {k : Nat} {frame : Bytes} (h : Bears k frame) : isFrame frame = true := by
  obtain ⟨payload, hframe, -⟩ := h
  exact isFrame_iff.mpr ⟨payload, hframe⟩

theorem Bears.begins {k : Nat} {frame : Bytes} (h : Bears k frame) :
    ∃ payload, frame <+: Framing.frame payload := by
  obtain ⟨payload, hframe, -⟩ := h
  exact ⟨payload, hframe ▸ List.prefix_rfl⟩

/-- What each call adds is a beginning of a frame, and all of this together is what the run adds. -/
theorem chunks_spec (turns : List Turn) {o : Outbox} (hseq : o.seq < 2 ^ 63) :
    (runTurns turns o).2.sink.bytes = o.sink.bytes ++ (chunks turns o).flatten ∧
      ∀ chunk ∈ chunks turns o, ∃ payload, chunk <+: Framing.frame payload := by
  induction turns generalizing o with
  | nil => exact ⟨(List.append_nil _).symm, by simp [chunks]⟩
  | cons turn turns ih =>
    have hleaves := turn.call.leaves hseq
    rcases hperform : turn.call.perform o with ⟨result, o'⟩
    rw [hperform] at hleaves
    rw [runTurns_cons, chunks, hperform]
    obtain ⟨chunk, hbytes, hbegins, hseq'⟩ : ∃ chunk, o'.sink.bytes = o.sink.bytes ++ chunk ∧
        (∃ payload, chunk <+: Framing.frame payload) ∧ o'.seq < 2 ^ 63 := by
      cases hleaves with
      | cut hseq' hbytes hbegins => exact ⟨_, hbytes, ⟨_, hbegins⟩, hseq' ▸ hseq⟩
      | flushed _ hlt hframe hbytes =>
        exact ⟨_, hbytes, hframe.begins, hlt⟩
      | unflushed hseq' _ hframe hbytes =>
        exact ⟨_, hbytes, hframe.begins, hseq' ▸ hseq⟩
    obtain ⟨hrest, hall⟩ := ih hseq'
    rw [Turn.chunk_eq hperform hbytes]
    refine ⟨?_, List.forall_mem_cons.mpr ⟨hbegins, hall⟩⟩
    rw [hrest, hbytes, List.flatten_cons, List.append_assoc]

/-! ## Runs -/

/-- The call fails, and its frame was taken all the same. -/
def Turn.Strands (turn : Turn) (o : Outbox) : Prop :=
  (turn.call.perform o).1.isOk = false ∧ isFrame (turn.chunk o) = true

/-- After a frame that was taken by a call that failed no other frame is taken. -/
def StrandsLast (turns : List Turn) (o : Outbox) : Prop :=
  ∀ before turn after, turns = before ++ turn :: after → turn.Strands (runTurns before o).2 →
    completeFrames after (runTurns (before ++ [turn]) o).2 = []

theorem strandsLast_cons (turn : Turn) (turns : List Turn) (o : Outbox) :
    StrandsLast (turn :: turns) o ↔
      (turn.Strands o → completeFrames turns (turn.call.perform o).2 = []) ∧
      StrandsLast turns (turn.call.perform o).2 := by
  constructor
  · intro h
    refine ⟨fun hstrands => h [] turn turns rfl hstrands, ?_⟩
    intro before other after hturns hstrands
    exact h (turn :: before) other after (by rw [hturns]; rfl) hstrands
  · rintro ⟨hfirst, hrest⟩ before other after hturns hstrands
    cases before with
    | nil =>
      obtain ⟨rfl, rfl⟩ := List.cons.inj hturns
      exact hfirst hstrands
    | cons first before =>
      obtain ⟨rfl, hturns'⟩ := List.cons.inj hturns
      exact hrest before other after hturns' hstrands

/-- What the frames are that a run leaves on the wire. -/
structure Run (turns : List Turn) (o : Outbox) (frames : List Bytes) : Prop where
  frames_eq : completeFrames turns o = frames
  /-- The frames bear numbers that were not used up before. -/
  bears : ∀ frame ∈ frames, ∃ k, o.seq < k ∧ Bears k frame
  /-- The first one bears the next number. -/
  first : ∀ frame ∈ frames.head?, Bears (o.seq + 1) frame
  apart_iff : Apart frames ↔ StrandsLast turns o

namespace Run

variable {turn : Turn} {turns : List Turn} {o o' : Outbox} {frame : Bytes} {frames : List Bytes}

theorem nil (o : Outbox) : Run [] o [] := by
  refine ⟨rfl, by simp, by simp, iff_of_true .nil ?_⟩
  intro before turn after hturns
  simp at hturns

theorem cons_cut {e : Error} (hperform : turn.call.perform o = (.error e, o'))
    (hseq : o'.seq = o.seq) (hcut : isFrame (turn.chunk o) = false) (hrun : Run turns o' frames) :
    Run (turn :: turns) o frames where
  frames_eq := by simpa [completeFrames, chunks, hcut, hperform] using hrun.frames_eq
  bears := by simpa only [hseq] using hrun.bears
  first := by simpa only [hseq] using hrun.first
  apart_iff := by
    have hnot : ¬ turn.Strands o := fun h => nomatch hcut.symm.trans h.2
    simpa [strandsLast_cons, hperform, hnot] using hrun.apart_iff

/-- A frame that was taken comes first. -/
theorem frames_cons {result : Except Error (Option Int64)}
    (hperform : turn.call.perform o = (result, o')) (hframe : Bears (o.seq + 1) frame)
    (hbytes : o'.sink.bytes = o.sink.bytes ++ frame) (hrun : Run turns o' frames) :
    completeFrames (turn :: turns) o = frame :: frames := by
  have hchunk : turn.chunk o = frame := Turn.chunk_eq hperform hbytes
  have hrest : (chunks turns o').filter isFrame = frames := hrun.frames_eq
  simp [completeFrames, chunks, hchunk, hframe.isFrame, hperform, hrest]

/-- The frames that follow bear greater numbers, since the number is used up. -/
theorem cons_flushed {number : Option Int64} (hperform : turn.call.perform o = (.ok number, o'))
    (hseq : o'.seq = o.seq + 1) (hframe : Bears (o.seq + 1) frame)
    (hbytes : o'.sink.bytes = o.sink.bytes ++ frame) (hrun : Run turns o' frames) :
    Run (turn :: turns) o (frame :: frames) := by
  have hnot : ¬ turn.Strands o := fun h => by
    simp [Turn.Strands, hperform, Except.isOk, Except.toBool] at h
  have hgreater : ∀ later ∈ frames, ∃ k, o.seq + 1 < k ∧ Bears k later := by
    simpa only [hseq] using hrun.bears
  refine ⟨frames_cons hperform hframe hbytes hrun,
    List.forall_mem_cons.mpr ⟨⟨o.seq + 1, by omega, hframe⟩, fun later hmem => ?_⟩,
    by simpa using hframe, ?_⟩
  · obtain ⟨k, hk, hbears⟩ := hgreater later hmem
    exact ⟨k, by omega, hbears⟩
  · rw [apart_cons_of_lt hframe hgreater, hrun.apart_iff, strandsLast_cons, hperform]
    simp [hnot]

/-- If a frame follows, the first one gets the number that is still free. -/
theorem cons_unflushed {e : Error} (hperform : turn.call.perform o = (.error e, o'))
    (hseq : o'.seq = o.seq) (hframe : Bears (o.seq + 1) frame)
    (hbytes : o'.sink.bytes = o.sink.bytes ++ frame) (hrun : Run turns o' frames) :
    Run (turn :: turns) o (frame :: frames) := by
  have hstrands : turn.Strands o := by
    refine ⟨by rw [hperform]; rfl, ?_⟩
    rw [Turn.chunk_eq hperform hbytes]
    exact hframe.isFrame
  have hbears := hrun.bears
  have hfirst := hrun.first
  rw [hseq] at hbears hfirst
  refine ⟨frames_cons hperform hframe hbytes hrun,
    List.forall_mem_cons.mpr ⟨⟨o.seq + 1, by omega, hframe⟩, hbears⟩, by simpa using hframe, ?_⟩
  rw [strandsLast_cons, hperform, hrun.frames_eq]
  cases frames with
  | nil => simpa [Apart] using hrun.apart_iff
  | cons next frames =>
    have htwice : ¬ Apart (frame :: next :: frames) := fun h =>
      (List.pairwise_cons.mp h).1 next List.mem_cons_self (o.seq + 1) hframe (hfirst next rfl)
    simp [htwice, hstrands]

end Run

theorem exists_run (turns : List Turn) {o : Outbox} (hseq : o.seq < 2 ^ 63) :
    ∃ frames, Run turns o frames := by
  induction turns generalizing o with
  | nil => exact ⟨[], .nil o⟩
  | cons turn turns ih =>
    have hleaves := turn.call.leaves hseq
    rcases hperform : turn.call.perform o with ⟨result, o'⟩
    rw [hperform] at hleaves
    cases hleaves with
    | cut hseq' hbytes hbegins hne =>
      obtain ⟨frames, hrun⟩ := ih (hseq' ▸ hseq)
      have hcut : isFrame (turn.chunk o) = false :=
        Turn.chunk_eq hperform hbytes ▸ not_isFrame_of_cut hbegins hne
      exact ⟨frames, hrun.cons_cut hperform hseq' hcut⟩
    | @flushed _ frame _ hseq' hlt hframe hbytes =>
      obtain ⟨frames, hrun⟩ := ih hlt
      exact ⟨frame :: frames, hrun.cons_flushed hperform hseq' hframe hbytes⟩
    | @unflushed _ frame _ hseq' _ hframe hbytes =>
      obtain ⟨frames, hrun⟩ := ih (hseq' ▸ hseq)
      exact ⟨frame :: frames, hrun.cons_unflushed hperform hseq' hframe hbytes⟩

/-- Where every flush succeeds, no frame is stranded. -/
theorem Turn.not_strands {turn : Turn} {o : Outbox} (hseq : o.seq < 2 ^ 63)
    (hnever : o.sink.flushes.NeverFails) : ¬ turn.Strands o := by
  rintro ⟨hfailed, hframe⟩
  have hleaves := turn.call.leaves hseq
  rcases hperform : turn.call.perform o with ⟨result, o'⟩
  rw [hperform] at hleaves hfailed
  cases hleaves with
  | cut _ hbytes hbegins hne =>
    rw [Turn.chunk_eq hperform hbytes, not_isFrame_of_cut hbegins hne] at hframe
    exact nomatch hframe
  | flushed => exact nomatch hfailed
  | unflushed _ hfails => exact hfails hnever

/-- Flushes that never fail go on never failing, and the numbers stay in range. -/
theorem neverFails_perform (c : Call) {o : Outbox} (h : o.sink.flushes.NeverFails) :
    (c.perform o).2.sink.flushes.NeverFails := by
  have hprepare : (c.prepare o).sink = o.sink := by cases c <;> rfl
  rw [Call.perform_eq]
  generalize c.prepare o = p at hprepare
  rw [← hprepare] at h
  dsimp only
  unfold Outbox.send
  dsimp only
  split
  · exact h
  · rename_i payload _
    have hwrite := Framing.Encoder.neverFails_writeFrame payload h
    split <;> rename_i heq <;> rw [heq] at hwrite <;> exact hwrite

theorem strandsLast_of_neverFails (turns : List Turn) {o : Outbox} (hseq : o.seq < 2 ^ 63)
    (hnever : o.sink.flushes.NeverFails) : StrandsLast turns o := by
  induction turns generalizing o with
  | nil =>
    intro before turn after hturns
    simp at hturns
  | cons turn turns ih =>
    have hleaves := turn.call.leaves hseq
    have hnever' := neverFails_perform turn.call hnever
    rw [strandsLast_cons]
    refine ⟨fun hstrands => absurd hstrands (turn.not_strands hseq hnever), ih ?_ hnever'⟩
    rcases hperform : turn.call.perform o with ⟨result, o'⟩
    rw [hperform] at hleaves
    cases hleaves with
    | cut hseq' | unflushed hseq' => exact hseq' ▸ hseq
    | flushed _ hlt => exact hlt

/-- Whatever the clones of a session send in whatever order, and whichever writes and flushes fail, what
each call adds to the wire is a beginning of a frame. A frame that got there as a whole bears a number. No
two of them bear one number if and only if no frame was taken after one that was taken and not flushed. So
numbers come twice only where flushes fail. -/
theorem apart_runTurns_iff (turns : List Turn) {o : Outbox} (hfresh : o.seq = 0) :
    ((runTurns turns o).2.sink.bytes = o.sink.bytes ++ (chunks turns o).flatten ∧
        ∀ chunk ∈ chunks turns o, ∃ payload, chunk <+: Framing.frame payload) ∧
      (∀ frame ∈ completeFrames turns o, ∃ k, Bears k frame) ∧
      (Apart (completeFrames turns o) ↔ StrandsLast turns o) ∧
      (o.sink.flushes.NeverFails → Apart (completeFrames turns o)) := by
  have hseq : o.seq < 2 ^ 63 := by omega
  obtain ⟨frames, hrun⟩ := exists_run turns hseq
  have hiff : Apart (completeFrames turns o) ↔ StrandsLast turns o :=
    hrun.frames_eq.symm ▸ hrun.apart_iff
  refine ⟨chunks_spec turns hseq, ?_, hiff, ?_⟩
  · intro frame hmem
    obtain ⟨k, -, hbears⟩ := hrun.bears frame (hrun.frames_eq ▸ hmem)
    exact ⟨k, hbears⟩
  · intro hnever
    exact hiff.mpr (strandsLast_of_neverFails turns hseq hnever)

/-- In the run in which a write fails and a response is refused, the frames bear different numbers. -/
theorem apart_runTurns_iff_mixedTurns :
    faultyOutbox.seq = 0 ∧ (completeFrames mixedTurns faultyOutbox).length = 2 ∧
      Apart (completeFrames mixedTurns faultyOutbox) := by
  obtain ⟨-, -, -, hapart⟩ := apart_runTurns_iff mixedTurns (o := faultyOutbox) rfl
  exact ⟨rfl, by decide +kernel, hapart faultyOutbox_clean.flushes⟩

/-- No flush succeeds. -/
def unflushableOutbox : Outbox where
  encoder := { sink := { flushes := .always (some .brokenPipe) } }

/-- Two clones send one event each. -/
def twoEvents : List Turn := [⟨0, .event "process" none⟩, ⟨1, .event "module" none⟩]

/-- When no flush succeeds, both events reach the other side under the number one. -/
theorem not_apart_twoEvents :
    completeFrames twoEvents unflushableOutbox =
        [Framing.frame (Utf8.encode
            "\x7b\"seq\":1,\"type\":\"event\",\"event\":\"process\"\x7d"),
          Framing.frame (Utf8.encode
            "\x7b\"seq\":1,\"type\":\"event\",\"event\":\"module\"\x7d")] ∧
      (runTurns twoEvents unflushableOutbox).2.sink.received =
        completeFrames twoEvents unflushableOutbox ∧
      ¬ Apart (completeFrames twoEvents unflushableOutbox) := by
  have hframes : completeFrames twoEvents unflushableOutbox =
      [Framing.frame (Utf8.encode "\x7b\"seq\":1,\"type\":\"event\",\"event\":\"process\"\x7d"),
        Framing.frame (Utf8.encode "\x7b\"seq\":1,\"type\":\"event\",\"event\":\"module\"\x7d")] := by
    decide +kernel
  refine ⟨hframes, by decide +kernel, fun hapart => ?_⟩
  rw [hframes] at hapart
  have hone : ∀ rest : Bytes, Bears 1 (Framing.frame
      (Utf8.encode "\x7b\"seq\":" ++ Decimal.encode 1 ++ 0x2C :: rest)) :=
    fun rest => ⟨_, rfl, rest, rfl⟩
  have hfirst := hone (Utf8.encode "\"type\":\"event\",\"event\":\"process\"\x7d")
  have hsecond := hone (Utf8.encode "\"type\":\"event\",\"event\":\"module\"\x7d")
  exact List.rel_of_pairwise_cons hapart List.mem_cons_self 1 hfirst hsecond

end DebugAdapter.Session
