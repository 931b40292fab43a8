import DebugAdapter.Proofs.Stream.Sink

/-! # Sinks that can be heard

A sink that is open may fail many times and still take something in the end. It does so if and only
if one of the writes to come takes a byte, and every write that takes none brings that one nearer. -/

namespace DebugAdapter

namespace Schedule

variable {α : Type} {P : α → Prop} {s : Schedule α}

/-- Some outcome of the schedule is of a kind. -/
def Any (P : α → Prop) (s : Schedule α) : Prop := (∃ outcome ∈ s.first, P outcome) ∨ P s.later

theorem any_of_now (h : P s.now) : s.Any P := by
  unfold now at h
  split at h
  · exact .inr h
  · rename_i outcome rest heq
    exact .inl ⟨outcome, heq ▸ List.mem_cons_self, h⟩

theorem Any.of_advance (h : s.advance.Any P) : s.Any P :=
  h.imp_left fun ⟨outcome, hmem, hP⟩ => ⟨outcome, List.mem_of_mem_drop hmem, hP⟩

/-- An outcome of another kind brings the first one of the kind nearer. -/
theorem Any.advance (h : s.Any P) (hnow : ¬ P s.now) :
    s.advance.Any P ∧ s.advance.first.length < s.first.length := by
  obtain ⟨first, later⟩ := s
  cases first with
  | nil => simp_all [Any, now]
  | cons outcome rest => simp_all [Any, now, Schedule.advance]

end Schedule

namespace Sink

variable {s s' : Sink} {bytes : Bytes} {outcome : Except IoError Nat}
  {result : Except IoError Unit}

/-- The sink is open, and some write to come takes a byte. -/
structure Hears (s : Sink) : Prop where
  attached : s.attached = true
  takes : s.writes.Any (·.takes = true)

/-! ## Sinks that have heard -/

/-- A sink that takes a byte, or hears after a write, heard before. -/
theorem Hears.of_write (hwrite : Write bytes s outcome s') (h : s'.Hears ∨ s'.bytes ≠ s.bytes) :
    s.Hears := by
  cases hwrite with
  | detached => exact h.resolve_right fun hne => hne rfl
  | failed hattached =>
    have hears := h.resolve_right fun hne => hne rfl
    exact ⟨hattached, hears.takes.of_advance⟩
  | @took taken hattached hnow =>
    refine ⟨hattached, ?_⟩
    by_cases htaken : taken = []
    · subst htaken
      have hears := h.resolve_right fun hne => hne (by simp [Sink.bytes, received])
      exact hears.takes.of_advance
    · have hbytes : bytes ≠ [] := fun hnil =>
        htaken (List.prefix_nil.mp (hnil ▸ Intake.accept_prefix hnow))
      exact Schedule.any_of_now ((Intake.accept_ne_nil hnow hbytes).mp htaken)

theorem Hears.of_writes (hwrites : Writes bytes s result s')
    (h : s'.Hears ∨ s'.bytes ≠ s.bytes) : s.Hears := by
  induction hwrites with
  | done => exact h.resolve_right fun hne => hne rfl
  | stuck _ hwrite | failed _ _ hwrite => exact .of_write hwrite h
  | @interrupted _ s t u _ _ hwrite _ ih | @taken _ s t u _ _ _ hwrite _ ih =>
    apply Hears.of_write hwrite
    by_cases hbytes : u.bytes = t.bytes
    · rw [← hbytes]
      exact h.imp_left fun hears => ih (.inl hears)
    · exact .inl (ih (.inr hbytes))

theorem Hears.of_writeAll (h : (s.writeAll bytes).2.Hears ∨ (s.writeAll bytes).2.bytes ≠ s.bytes) :
    s.Hears :=
  .of_writes (writes_writeAll bytes s) h

/-! ## Sinks that will hear -/

/-- The sink took nothing, and it is nearer to the write of which it will take a byte. -/
structure Nearer (s s' : Sink) : Prop where
  bytes_eq : s'.bytes = s.bytes
  hears : s'.Hears
  length_lt : s'.writes.first.length < s.writes.first.length

theorem Nearer.trans {t u : Sink} (h : Nearer s t) (h' : Nearer t u) : Nearer s u where
  bytes_eq := h'.bytes_eq.trans h.bytes_eq
  hears := h'.hears
  length_lt := Nat.lt_trans h'.length_lt h.length_lt

theorem Hears.nearer_of_write (h : s.Hears) (hbytes : bytes ≠ [])
    (hwrite : Write bytes s outcome s') (hnothing : s'.bytes = s.bytes) : Nearer s s' := by
  cases hwrite with
  | detached hattached => exact nomatch h.attached.symm.trans hattached
  | failed hattached hnow =>
    obtain ⟨htakes, hlength⟩ := h.takes.advance (by simp [hnow, Intake.takes])
    exact ⟨rfl, ⟨hattached, htakes⟩, hlength⟩
  | @took taken hattached hnow =>
    have htaken : taken = [] := by simpa [Sink.bytes, received] using hnothing
    have hnot := mt (Intake.accept_ne_nil hnow hbytes).mpr (Classical.not_not.mpr htaken)
    obtain ⟨htakes, hlength⟩ := h.takes.advance hnot
    exact ⟨hnothing, ⟨hattached, htakes⟩, hlength⟩

/-- A sink that hears takes a byte, or it gets nearer to doing so. -/
theorem Hears.writes (h : s.Hears) (hbytes : bytes ≠ []) (hwrites : Writes bytes s result s') :
    s'.bytes ≠ s.bytes ∨ (∃ e, result = .error e) ∧ Nearer s s' := by
  induction hwrites with
  | done => exact absurd rfl hbytes
  | stuck hblock hwrite =>
    exact .inr ⟨⟨_, rfl⟩, h.nearer_of_write hblock hwrite hwrite.took_take.bytes_same⟩
  | failed hblock _ hwrite =>
    exact .inr ⟨⟨_, rfl⟩, h.nearer_of_write hblock hwrite hwrite.took_nil.bytes_same⟩
  | interrupted hblock hwrite _ ih =>
    have hnearer := h.nearer_of_write hblock hwrite hwrite.took_nil.bytes_same
    rcases ih hnearer.hears hblock with hgrown | ⟨hfailed, hnearer'⟩
    · left
      rwa [hnearer.bytes_eq] at hgrown
    · exact .inr ⟨hfailed, hnearer.trans hnearer'⟩
  | taken hblock hwrite hrest =>
    left
    obtain ⟨taken, htook, -, -⟩ := hrest.spec
    rw [(hwrite.took_take.trans htook).bytes_eq]
    simp [hblock]

theorem Hears.writeAll (h : s.Hears) (hbytes : bytes ≠ []) :
    (s.writeAll bytes).2.bytes ≠ s.bytes ∨
      ∃ e s', s.writeAll bytes = (.error e, s') ∧ Nearer s s' := by
  rcases h.writes hbytes (writes_writeAll bytes s) with hgrown | ⟨⟨e, he⟩, hnearer⟩
  · exact .inl hgrown
  · exact .inr ⟨e, _, Prod.ext he rfl, hnearer⟩

/-! ## Flushing and closing -/

theorem hears_flush (s : Sink) : s.flush.2.Hears ↔ s.Hears := by
  obtain ⟨flushes, hflush⟩ := s.flush_eq
  rw [hflush]
  exact ⟨fun h => ⟨h.attached, h.takes⟩, fun h => ⟨h.attached, h.takes⟩⟩

theorem close_of_flush_error {e : IoError} (h : s.flush.1 = .error e) :
    s.close = (.error e, s.flush.2) := by
  by_cases hattached : s.attached = true
  · rw [close, if_pos hattached]
    split
    · rename_i heq
      simp [heq] at h
    · exact Prod.ext h rfl
  · simp [flush, hattached] at h

theorem attached_close_of_flush_ok (h : s.flush.1 = .ok ()) : s.close.2.attached = false := by
  rcases s.close_eq with hclose | ⟨⟨e, he⟩, -⟩
  · rw [hclose]
  · exact nomatch h.symm.trans he

/-- A sink goes on hearing after it was closed only if the last flush fails. -/
theorem hears_close (s : Sink) : s.close.2.Hears ↔ s.flush.1 ≠ .ok () ∧ s.Hears := by
  cases hflush : s.flush.1 with
  | ok =>
    have hdetached := attached_close_of_flush_ok hflush
    have hdeaf : ¬ s.close.2.Hears := fun h => nomatch hdetached.symm.trans h.attached
    simp [hdeaf]
  | error e =>
    rw [close_of_flush_error hflush, hears_flush]
    simp

end Sink

end DebugAdapter
