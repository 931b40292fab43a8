import DebugAdapter.Stream.Sink

/-! # What reaches a sink

Bytes are written in a series of writes, each of which takes a part of what is left. However the
sink behaves, a beginning of the bytes is in it afterwards, and all of them are if and only if
writing them succeeded. -/

namespace DebugAdapter

/-! ## Schedules -/

namespace Schedule

variable {α : Type} {P : α → Prop} {s : Schedule α}

/-- All outcomes of the schedule are of one kind. -/
structure All (P : α → Prop) (s : Schedule α) : Prop where
  first : ∀ outcome ∈ s.first, P outcome
  later : P s.later

theorem All.always {outcome : α} (h : P outcome) : (always outcome).All P :=
  ⟨fun _ hmem => absurd hmem List.not_mem_nil, h⟩

theorem All.now (h : s.All P) : P s.now := by
  unfold Schedule.now
  split
  · exact h.later
  · rename_i outcome rest heq
    exact h.first outcome (heq ▸ List.mem_cons_self)

theorem All.advance (h : s.All P) : s.advance.All P :=
  ⟨fun outcome hmem => h.first outcome (List.mem_of_mem_drop hmem), h.later⟩

/-- No operation of the schedule fails. -/
abbrev NeverFails (s : Schedule (Option IoError)) : Prop := s.All (· = none)

theorem length_first_advance (s : Schedule α) :
    s.advance.first.length = s.first.length - 1 := List.length_drop

/-- An outcome that does not go on for ever is one of the first. -/
theorem length_first_pos (h : s.now ≠ s.later) : 0 < s.first.length := by
  unfold now at h
  split at h
  · exact absurd rfl h
  · rename_i heq
    rw [heq]
    exact Nat.succ_pos _

end Schedule

namespace Intake

/-- Some bytes are taken of a write that has any. -/
def takes : Intake → Bool
  | whole => true
  | part most => most != 0
  | failure _ => false

/-- All bytes are taken or none. -/
def isIntact : Intake → Bool
  | part _ => false
  | whole | failure _ => true

theorem accept_prefix {i : Intake} {bytes taken : Bytes} (h : i.accept bytes = .ok taken) :
    taken <+: bytes := by
  cases i with
  | whole => exact Except.ok.inj h ▸ List.prefix_rfl
  | part most => exact Except.ok.inj h ▸ List.take_prefix most bytes
  | failure e => exact nomatch h

theorem accept_error {i : Intake} {bytes : Bytes} {e : IoError} (h : i.accept bytes = .error e) :
    i = .failure e := by
  cases i with
  | whole | part => exact nomatch h
  | failure => rw [Except.error.inj h]

/-- The bytes that are taken are none only if the outcome or the write has none. -/
theorem accept_ne_nil {i : Intake} {bytes taken : Bytes} (h : i.accept bytes = .ok taken)
    (hbytes : bytes ≠ []) : taken ≠ [] ↔ i.takes = true := by
  cases i with
  | whole => simpa [takes, ← Except.ok.inj h] using hbytes
  | part most => simp [takes, ← Except.ok.inj h, hbytes]
  | failure e => exact nomatch h

end Intake

namespace Sink

variable {bytes : Bytes} {s s' : Sink} {result : Except IoError Unit}

/-! ## One write -/

/-- Some bytes more have reached the sink. The flushes to come are the same. -/
structure Took (taken : Bytes) (s s' : Sink) : Prop where
  bytes_eq : s'.bytes = s.bytes ++ taken
  flushes_eq : s'.flushes = s.flushes
  attached_eq : s'.attached = s.attached

theorem Took.rfl : Took [] s s := ⟨(List.append_nil _).symm, Eq.refl _, Eq.refl _⟩

theorem Took.trans {first second : Bytes} {t : Sink} (h : Took first s t) (h' : Took second t s') :
    Took (first ++ second) s s' where
  bytes_eq := by rw [h'.bytes_eq, h.bytes_eq, List.append_assoc]
  flushes_eq := h'.flushes_eq.trans h.flushes_eq
  attached_eq := h'.attached_eq.trans h.attached_eq

theorem Took.bytes_same (h : Took [] s s') : s'.bytes = s.bytes :=
  h.bytes_eq.trans (List.append_nil _)

theorem bytes_of_written {block : Bytes} (h : s'.written = block :: s.written) :
    s'.bytes = s.bytes ++ block := by
  simp [bytes, received, h]

theorem bytes_same_of_written (h : s'.written = s.written) : s'.bytes = s.bytes := by
  rw [bytes, received, h, bytes, received]

/-- What one write does. -/
inductive Write (bytes : Bytes) (s : Sink) : Except IoError Nat → Sink → Prop where
  | detached (hattached : s.attached = false) : Write bytes s (.error .brokenPipe) s
  | failed {e} (hattached : s.attached = true) (hnow : s.writes.now = .failure e) :
      Write bytes s (.error e) { s with writes := s.writes.advance }
  | took {taken} (hattached : s.attached = true) (hnow : s.writes.now.accept bytes = .ok taken) :
      Write bytes s (.ok taken.length)
        { s with written := taken :: s.written, writes := s.writes.advance }

theorem write_spec (bytes : Bytes) (s : Sink) : Write bytes s (s.write bytes).1 (s.write bytes).2 := by
  unfold write
  split
  · rename_i hattached
    split
    · rename_i taken hnow
      exact .took hattached hnow
    · rename_i e hnow
      exact .failed hattached (Intake.accept_error hnow)
  · rename_i hattached
    exact .detached (Bool.eq_false_iff.mpr hattached)

theorem write_of_eq {outcome : Except IoError Nat} (h : s.write bytes = (outcome, s')) :
    Write bytes s outcome s' := by
  have hspec := write_spec bytes s
  rwa [h] at hspec

theorem Write.took_nil {e : IoError} (h : Write bytes s (.error e) s') : Took [] s s' := by
  cases h with
  | detached => exact .rfl
  | failed => exact ⟨(List.append_nil _).symm, rfl, rfl⟩

theorem Write.took_take {n : Nat} (h : Write bytes s (.ok n) s') : Took (bytes.take n) s s' := by
  cases h with
  | @took taken hattached hnow =>
    rw [← List.prefix_iff_eq_take.mp (Intake.accept_prefix hnow)]
    exact ⟨bytes_of_written rfl, rfl, rfl⟩

theorem Write.length_first_le {outcome : Except IoError Nat} (h : Write bytes s outcome s') :
    s'.writes.first.length ≤ s.writes.first.length := by
  cases h with
  | detached => exact Nat.le_refl _
  | failed | took => exact s.writes.length_first_advance.symm ▸ Nat.sub_le _ _

/-- An interruption uses up one of the first outcomes. -/
theorem Write.length_first_lt (h : Write bytes s (.error .interrupted) s') :
    s'.writes.first.length < s.writes.first.length := by
  cases h with
  | failed hattached hnow =>
    have hpos : 0 < s.writes.first.length :=
      Schedule.length_first_pos (hnow ▸ s.writes.relents.symm)
    exact s.writes.length_first_advance.symm ▸ Nat.sub_lt hpos Nat.one_pos

/-! ## All of some bytes -/

/-- How some bytes are written, one write after the other. -/
inductive Writes : Bytes → Sink → Except IoError Unit → Sink → Prop where
  | done (s : Sink) : Writes [] s (.ok ()) s
  | stuck {block : Bytes} {s t : Sink} (hblock : block ≠ []) (hwrite : Write block s (.ok 0) t) :
      Writes block s (.error .writeZero) t
  | failed {block : Bytes} {s t : Sink} {e : IoError} (hblock : block ≠ []) (he : e ≠ .interrupted)
      (hwrite : Write block s (.error e) t) : Writes block s (.error e) t
  | interrupted {block : Bytes} {s t u : Sink} {outcome : Except IoError Unit} (hblock : block ≠ [])
      (hwrite : Write block s (.error .interrupted) t) (hrest : Writes block t outcome u) :
      Writes block s outcome u
  | taken {block : Bytes} {s t u : Sink} {n : Nat} {outcome : Except IoError Unit}
      (hblock : block ≠ []) (hwrite : Write block s (.ok (n + 1)) t)
      (hrest : Writes (block.drop (n + 1)) t outcome u) : Writes block s outcome u

/-- The bound on the number of writes is never what ends them. -/
theorem writes_writeWithin (bound : Nat) (s : Sink) (bytes : Bytes)
    (hbound : s.writes.first.length + bytes.length ≤ bound) :
    Writes bytes s (writeWithin bound s bytes).1 (writeWithin bound s bytes).2 := by
  induction bound generalizing s bytes with
  | zero =>
    have hnil : bytes = [] := List.eq_nil_of_length_eq_zero (by omega)
    subst hnil
    exact .done s
  | succ bound ih =>
    by_cases hbytes : bytes = []
    · subst hbytes
      exact .done s
    · have hpos : 0 < bytes.length := List.length_pos_iff.mpr hbytes
      rw [writeWithin.eq_def]
      rcases hwrite : s.write bytes with ⟨e | n, t⟩
      · have hspec := write_of_eq hwrite
        by_cases he : e = .interrupted
        · subst he
          have hlt := hspec.length_first_lt
          simpa [hbytes, hwrite] using Writes.interrupted hbytes hspec (ih t bytes (by omega))
        · simpa [hbytes, hwrite, he] using Writes.failed hbytes he hspec
      · have hspec := write_of_eq hwrite
        cases n with
        | zero => simpa [hbytes, hwrite] using Writes.stuck hbytes hspec
        | succ n =>
          have hle := hspec.length_first_le
          have hshorter : (bytes.drop (n + 1)).length < bytes.length := by
            rw [List.length_drop]
            omega
          simpa [hbytes, hwrite] using Writes.taken hbytes hspec (ih t _ (by omega))

@[simp] theorem writeAll_nil (s : Sink) : s.writeAll [] = (.ok (), s) := by
  rw [writeAll, writeWithin]

theorem writes_writeAll (bytes : Bytes) (s : Sink) :
    Writes bytes s (s.writeAll bytes).1 (s.writeAll bytes).2 :=
  writes_writeWithin _ s bytes (Nat.le_refl _)

/-- What was taken is a beginning of the bytes. -/
theorem Writes.spec (h : Writes bytes s result s') :
    ∃ taken, Took taken s s' ∧ taken <+: bytes ∧ (result = .ok () ↔ taken = bytes) := by
  induction h with
  | done => exact ⟨[], .rfl, List.prefix_rfl, by simp⟩
  | stuck hbytes hwrite => exact ⟨[], hwrite.took_take, List.nil_prefix, by simpa using hbytes.symm⟩
  | failed hbytes _ hwrite =>
    exact ⟨[], hwrite.took_nil, List.nil_prefix, by simpa using hbytes.symm⟩
  | interrupted _ hwrite _ ih =>
    obtain ⟨taken, htook, hprefix, hiff⟩ := ih
    exact ⟨taken, hwrite.took_nil.trans htook, hprefix, hiff⟩
  | @taken bytes _ _ _ n _ _ hwrite _ ih =>
    obtain ⟨taken, htook, hprefix, hiff⟩ := ih
    refine ⟨bytes.take (n + 1) ++ taken, hwrite.took_take.trans htook, ?_, ?_⟩
    · have hwhole := (List.prefix_append_right_inj (bytes.take (n + 1))).mpr hprefix
      rwa [List.take_append_drop] at hwhole
    · have hcancel := List.append_cancel_left_eq (bytes.take (n + 1)) taken (bytes.drop (n + 1))
      rw [List.take_append_drop] at hcancel
      rw [hiff, hcancel]

theorem writeAll_spec (bytes : Bytes) (s : Sink) :
    ∃ taken, Took taken s (s.writeAll bytes).2 ∧ taken <+: bytes ∧
      ((s.writeAll bytes).1 = .ok () ↔ taken = bytes) :=
  (writes_writeAll bytes s).spec

theorem writeAll_of_detached (hbytes : bytes ≠ []) (h : s.attached = false) :
    s.writeAll bytes = (.error .brokenPipe, s) := by
  obtain ⟨b, rest, rfl⟩ := List.exists_cons_of_ne_nil hbytes
  have hwrite : s.write (b :: rest) = (.error .brokenPipe, s) := by rw [write, h]; rfl
  rw [writeAll, List.length_cons, ← Nat.add_assoc, writeWithin, hwrite]
  exact List.cons_ne_nil b rest

/-! ## Flushing and closing -/

theorem flush_eq (s : Sink) : ∃ flushes, s.flush.2 = { s with flushes } := by
  unfold flush
  split
  · split <;> exact ⟨_, rfl⟩
  · exact ⟨s.flushes, rfl⟩

theorem bytes_flush (s : Sink) : s.flush.2.bytes = s.bytes := by
  obtain ⟨flushes, hflush⟩ := s.flush_eq
  rw [hflush]
  rfl

theorem flush_of_neverFails (h : s.flushes.NeverFails) :
    s.flush.1 = .ok () ∧ s.flush.2.flushes.NeverFails := by
  unfold flush
  rw [h.now]
  split
  · exact ⟨rfl, h.advance⟩
  · exact ⟨rfl, h⟩

/-- A sink that was closed is closed, or the last flush has failed. -/
theorem close_eq (s : Sink) : s.close.2 = { s.flush.2 with attached := false } ∨
    (∃ e, s.flush.1 = .error e) ∧ s.close.2 = s.flush.2 := by
  unfold close
  by_cases hattached : s.attached = true
  · rw [if_pos hattached]
    rcases hflush : s.flush with ⟨e | _, t⟩
    · exact .inr ⟨⟨e, rfl⟩, rfl⟩
    · exact .inl rfl
  · rw [if_neg hattached, flush, if_neg hattached]
    rw [Bool.not_eq_true] at hattached
    exact .inl (by rw [← hattached])

theorem bytes_close (s : Sink) : s.close.2.bytes = s.bytes := by
  rcases s.close_eq with hclose | ⟨-, hclose⟩
  · rw [hclose]
    exact s.bytes_flush
  · rw [hclose]
    exact s.bytes_flush

/-! ## Sinks without failures -/

/-- The sink takes whatever is written, if only bit by bit. -/
structure Accepts (s : Sink) : Prop where
  attached : s.attached = true
  writes : s.writes.All (·.takes = true)
  flushes : s.flushes.NeverFails

theorem Accepts.default : Accepts {} := ⟨rfl, .always rfl, .always rfl⟩

theorem Write.accepts (h : s.Accepts) (hbytes : bytes ≠ []) {outcome : Except IoError Nat}
    (hwrite : Write bytes s outcome s') : s'.Accepts ∧ ∃ n, outcome = .ok (n + 1) := by
  have htakes := h.writes.now
  cases hwrite with
  | detached hattached => exact nomatch h.attached.symm.trans hattached
  | failed _ hnow => simp [hnow, Intake.takes] at htakes
  | @took taken _ hnow =>
    have hpos := List.length_pos_iff.mpr ((Intake.accept_ne_nil hnow hbytes).mpr htakes)
    refine ⟨⟨h.attached, h.writes.advance, h.flushes⟩, taken.length - 1, ?_⟩
    rw [Nat.sub_add_cancel hpos]

theorem Writes.accepts (h : s.Accepts) (hwrites : Writes bytes s result s') :
    s'.Accepts ∧ result = .ok () := by
  induction hwrites with
  | done => exact ⟨h, rfl⟩
  | stuck hblock hwrite =>
    obtain ⟨-, n, hn⟩ := hwrite.accepts h hblock
    cases hn
  | failed hblock _ hwrite | interrupted hblock hwrite =>
    obtain ⟨-, n, hn⟩ := hwrite.accepts h hblock
    cases hn
  | taken hblock hwrite _ ih => exact ih (hwrite.accepts h hblock).1

theorem Accepts.writeAll (h : s.Accepts) (bytes : Bytes) :
    ∃ s', s.writeAll bytes = (.ok (), s') ∧ s'.Accepts ∧ s'.bytes = s.bytes ++ bytes := by
  obtain ⟨haccepts, hok⟩ := (writes_writeAll bytes s).accepts h
  obtain ⟨taken, htook, -, hiff⟩ := writeAll_spec bytes s
  exact ⟨_, Prod.ext hok rfl, haccepts, hiff.mp hok ▸ htook.bytes_eq⟩

theorem Accepts.flush (h : s.Accepts) :
    ∃ s', s.flush = (.ok (), s') ∧ s'.Accepts ∧ s'.bytes = s.bytes := by
  refine ⟨{ s with flushes := s.flushes.advance }, ?_,
    ⟨h.attached, h.writes, h.flushes.advance⟩, rfl⟩
  rw [Sink.flush, if_pos h.attached, h.flushes.now]

theorem Accepts.attached_close (h : s.Accepts) : s.close.2.attached = false := by
  obtain ⟨s', hflush, -, -⟩ := h.flush
  rw [close, if_pos h.attached, hflush]

end Sink

end DebugAdapter
