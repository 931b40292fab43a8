import DebugAdapter.Proofs.Stream.Sink

/-! # Sinks that take all or nothing

Some sinks leave no beginning of what they did not take as a whole. Each write of such a sink may
still take a part, as long as the writes that follow take the rest. -/

namespace DebugAdapter.Sink

variable {bytes : Bytes} {s s' : Sink} {result : Except IoError Unit}

/-! ## Blocks -/

/-- Writes some blocks of bytes, one after the other, whatever becomes of each. -/
def writeBlocks (s : Sink) (blocks : List Bytes) : Sink :=
  blocks.foldl (fun s block => (s.writeAll block).2) s

theorem writeBlocks_cons (s : Sink) (block : Bytes) (blocks : List Bytes) :
    s.writeBlocks (block :: blocks) = (s.writeAll block).2.writeBlocks blocks := rfl

/-- What each write keeps holds after all of them. -/
theorem writeBlocks_keeps {P : Sink → Prop} (hkeeps : ∀ s block, P s → P (s.writeAll block).2)
    (h : P s) (blocks : List Bytes) : P (s.writeBlocks blocks) := by
  induction blocks generalizing s with
  | nil => exact h
  | cons block blocks ih => exact ih (hkeeps s block h)

/-! ## Writes that fail in vain -/

/-- Whatever is written now or later, nothing of it is taken when writing it fails. -/
def Untorn (s : Sink) : Prop :=
  ∀ blocks block, ((s.writeBlocks blocks).writeAll block).1 ≠ .ok () →
    ((s.writeBlocks blocks).writeAll block).2.bytes = (s.writeBlocks blocks).bytes

/-- The bytes that are taken if writing them fails only in vain. -/
def takenOf (bytes : Bytes) : Except IoError Unit → Bytes
  | .ok () => bytes
  | .error _ => []

theorem Untorn.took (h : s.Untorn) (bytes : Bytes) :
    Took (takenOf bytes (s.writeAll bytes).1) s (s.writeAll bytes).2 := by
  have hnothing := h [] bytes
  obtain ⟨taken, htook, -, hiff⟩ := writeAll_spec bytes s
  cases hresult : (s.writeAll bytes).1 with
  | ok =>
    rw [hiff.mp hresult] at htook
    exact htook
  | error e =>
    have hsame : (s.writeAll bytes).2.bytes = s.bytes := hnothing (by
      change (s.writeAll bytes).1 ≠ .ok ()
      simp [hresult])
    exact ⟨hsame.trans (List.append_nil _).symm, htook.flushes_eq, htook.attached_eq⟩

theorem Untorn.writeAll (h : s.Untorn) (bytes : Bytes) : (s.writeAll bytes).2.Untorn :=
  fun blocks => h (bytes :: blocks)

theorem write_withFlushes (bytes : Bytes) (s : Sink) (flushes : Schedule (Option IoError)) :
    { s with flushes }.write bytes =
      ((s.write bytes).1, { (s.write bytes).2 with flushes }) := by
  simp only [write]
  split
  · split <;> rfl
  · rfl

theorem writeWithin_withFlushes (bound : Nat) (s : Sink) (bytes : Bytes)
    (flushes : Schedule (Option IoError)) :
    writeWithin bound { s with flushes } bytes =
      ((writeWithin bound s bytes).1, { (writeWithin bound s bytes).2 with flushes }) := by
  induction bound generalizing s bytes with
  | zero => cases bytes <;> rfl
  | succ bound ih =>
    cases bytes with
    | nil => rfl
    | cons b rest =>
      rw [writeWithin, writeWithin, write_withFlushes]
      rcases s.write (b :: rest) with ⟨e | n, t⟩
      · cases e <;> first | exact ih t _ | rfl
      · cases n with
        | zero => rfl
        | succ n => exact ih t _
      all_goals exact List.cons_ne_nil b rest

/-- Writing does not depend on the flushes to come. -/
theorem writeAll_withFlushes (bytes : Bytes) (s : Sink) (flushes : Schedule (Option IoError)) :
    { s with flushes }.writeAll bytes =
      ((s.writeAll bytes).1, { (s.writeAll bytes).2 with flushes }) :=
  writeWithin_withFlushes _ s bytes flushes

theorem writeBlocks_withFlushes (blocks : List Bytes) (s : Sink)
    (flushes : Schedule (Option IoError)) :
    { s with flushes }.writeBlocks blocks = { s.writeBlocks blocks with flushes } := by
  induction blocks generalizing s with
  | nil => rfl
  | cons block blocks ih =>
    rw [writeBlocks_cons, writeAll_withFlushes]
    exact ih (s.writeAll block).2

theorem Untorn.flush (h : s.Untorn) : s.flush.2.Untorn := by
  obtain ⟨flushes, hflush⟩ := s.flush_eq
  intro blocks block hfailed
  rw [hflush, writeBlocks_withFlushes, writeAll_withFlushes] at hfailed ⊢
  exact h blocks block hfailed

theorem snd_writeAll_of_detached (h : s.attached = false) (bytes : Bytes) :
    (s.writeAll bytes).2 = s := by
  cases bytes with
  | nil => rw [writeAll_nil]
  | cons b rest => rw [writeAll_of_detached (List.cons_ne_nil b rest) h]

theorem untorn_of_detached (h : s.attached = false) : s.Untorn := by
  intro blocks block _
  have hdetached : (s.writeBlocks blocks).attached = false := by
    refine writeBlocks_keeps (P := (·.attached = false)) (fun t block ht => ?_) h blocks
    rwa [snd_writeAll_of_detached ht]
  rw [snd_writeAll_of_detached hdetached]

theorem Untorn.close (h : s.Untorn) : s.close.2.Untorn := by
  rcases s.close_eq with hclose | ⟨-, hclose⟩
  · exact untorn_of_detached (by rw [hclose])
  · rw [hclose]
    exact h.flush

theorem Accepts.untorn (h : s.Accepts) : s.Untorn := by
  intro blocks block hfailed
  have haccepts : (s.writeBlocks blocks).Accepts :=
    writeBlocks_keeps (fun t block ht => ((writes_writeAll block t).accepts ht).1) h blocks
  exact absurd ((writes_writeAll block _).accepts haccepts).2 hfailed

/-! ## Writes that are not cut -/

/-- Each write is taken as a whole or fails. -/
def Intact (s : Sink) : Prop := s.writes.All (·.isIntact = true)

theorem Write.intact {outcome : Except IoError Nat} (h : s.Intact)
    (hwrite : Write bytes s outcome s') :
    s'.Intact ∧ (∀ n, outcome = .ok n → n = bytes.length ∧ s'.written = bytes :: s.written) ∧
      ∀ e, outcome = .error e → s'.written = s.written := by
  have hnow := h.now
  cases hwrite with
  | detached => exact ⟨h, by simp, by simp⟩
  | failed => exact ⟨h.advance, by simp, by simp⟩
  | @took taken _ haccept =>
    have hwhole : taken = bytes := by
      generalize s.writes.now = i at hnow haccept
      cases i with
      | whole => exact (Except.ok.inj haccept).symm
      | part => cases hnow
      | failure => cases haccept
    subst hwhole
    exact ⟨h.advance, fun n hn => ⟨(Except.ok.inj hn).symm, rfl⟩, by simp⟩

/-- All is taken in one write, or nothing. -/
theorem Writes.intact (h : s.Intact) (hbytes : bytes ≠ []) (hwrites : Writes bytes s result s') :
    s'.Intact ∧ (result = .ok () → s'.written = bytes :: s.written) ∧
      (result ≠ .ok () → s'.written = s.written) := by
  induction hwrites with
  | done => exact absurd rfl hbytes
  | stuck hblock hwrite =>
    obtain ⟨-, hok, -⟩ := hwrite.intact h
    exact absurd (List.eq_nil_of_length_eq_zero (hok 0 rfl).1.symm) hblock
  | failed _ _ hwrite =>
    obtain ⟨hintact, -, herror⟩ := hwrite.intact h
    exact ⟨hintact, by simp, fun _ => herror _ rfl⟩
  | interrupted hblock hwrite _ ih =>
    obtain ⟨hintact, -, herror⟩ := hwrite.intact h
    rw [← herror _ rfl]
    exact ih hintact hblock
  | taken hblock hwrite hrest =>
    obtain ⟨hintact, hok, -⟩ := hwrite.intact h
    obtain ⟨hlength, hwritten⟩ := hok _ rfl
    rw [List.drop_of_length_le (Nat.le_of_eq hlength.symm)] at hrest
    generalize hnil : ([] : Bytes) = nothing at hrest
    cases hrest with
    | done => exact ⟨hintact, fun _ => hwritten, fun hne => absurd rfl hne⟩
    | stuck hne | failed hne | interrupted hne | taken hne => exact absurd hnil.symm hne

theorem Intact.writeAll (h : s.Intact) (bytes : Bytes) : (s.writeAll bytes).2.Intact := by
  by_cases hbytes : bytes = []
  · rw [hbytes, writeAll_nil]
    exact h
  · exact ((writes_writeAll bytes s).intact h hbytes).1

theorem Intact.untorn (h : s.Intact) : s.Untorn := by
  intro blocks block hfailed
  have hintact : (s.writeBlocks blocks).Intact :=
    writeBlocks_keeps (fun _ block ht => ht.writeAll block) h blocks
  by_cases hblock : block = []
  · rw [hblock, writeAll_nil]
  · exact bytes_same_of_written (((writes_writeAll block _).intact hintact hblock).2.2 hfailed)

/-- Flushes succeed, and a write that fails has taken nothing. -/
structure Clean (s : Sink) : Prop where
  flushes : s.flushes.NeverFails
  untorn : s.Untorn

theorem Accepts.clean (h : s.Accepts) : s.Clean := ⟨h.flushes, h.untorn⟩

theorem Clean.close (h : s.Clean) : s.close.2.Clean := by
  refine ⟨?_, h.untorn.close⟩
  have hflushes := (flush_of_neverFails h.flushes).2
  rcases s.close_eq with hclose | ⟨-, hclose⟩ <;> rw [hclose] <;> exact hflushes

end DebugAdapter.Sink
