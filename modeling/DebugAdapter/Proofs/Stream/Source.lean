import DebugAdapter.Stream.Source

/-! # Reading does not depend on chunks

A source whose reads fail by interruption only hands out the bytes that remain in it, one by one
or a buffer at a time, however its feed cuts them into reads. -/

namespace DebugAdapter

/-! ## One read -/

namespace Feed

theorem faultDistance?_pos {feed : Feed} {d : Nat} (h : feed.faultDistance? = some d) : 0 < d := by
  obtain ⟨f, -, hf⟩ := List.mem_filterMap.mp (List.min?_mem h)
  split at hf
  · obtain rfl := Option.some.inj hf
    omega
  · exact absurd hf (by simp)

theorem allowance_pos (feed : Feed) {wanted : Nat} (h : 0 < wanted) : 0 < feed.allowance wanted := by
  rw [allowance]
  split
  · rename_i d hd
    have := faultDistance?_pos hd
    omega
  · omega

/-- A read uses up a fault, or takes bytes off the front of the stream, some if there are any and the
feed is open. -/
theorem read_spec (feed : Feed) {wanted : Nat} (h : 0 < wanted) :
    (∃ fault ∈ feed.faults, feed.read wanted =
        (.error fault.error, { feed with faults := feed.faults.erase fault })) ∨
      ∃ bytes feed', feed.read wanted = (.ok bytes, feed') ∧ bytes ++ feed'.rest = feed.rest ∧
        feed'.faults = feed.faults ∧ (feed.attached = true → bytes = [] → feed.rest = []) := by
  unfold read
  by_cases hattached : feed.attached = true
  · rw [if_pos hattached]
    cases hfault : feed.faults.find? (·.offset == feed.position) with
    | some fault => exact .inl ⟨fault, List.mem_of_find?_eq_some hfault, rfl⟩
    | none =>
      refine .inr ⟨_, _, rfl, List.take_append_drop _ _, rfl, fun _ hnil => ?_⟩
      have hallowance := feed.allowance_pos h
      rcases List.take_eq_nil_iff.mp hnil with hzero | hrest
      · omega
      · exact hrest
  · rw [if_neg hattached]
    exact .inr ⟨[], feed, rfl, rfl, rfl, fun h => absurd h hattached⟩

/-- Whether a feed is open, and whether it lets itself be closed, is the same. -/
structure Alike (feed feed' : Feed) : Prop where
  attached_eq : feed'.attached = feed.attached
  refusal_eq : feed'.refusal = feed.refusal

theorem Alike.refl (feed : Feed) : Alike feed feed := ⟨rfl, rfl⟩

theorem Alike.trans {feed feed' feed'' : Feed} (h : Alike feed feed') (h' : Alike feed' feed'') :
    Alike feed feed'' :=
  ⟨h'.attached_eq.trans h.attached_eq, h'.refusal_eq.trans h.refusal_eq⟩

theorem alike_read (feed : Feed) (wanted : Nat) : Alike feed (feed.read wanted).2 := by
  unfold read
  split
  · split <;> exact ⟨rfl, rfl⟩
  · exact .refl feed

/-- A feed that may be closed is closed by it. -/
theorem attached_close {feed : Feed} (h : feed.refusal = none) : feed.close.2.attached = false := by
  unfold close
  split
  · rw [h]
  · rename_i hattached
    exact Bool.eq_false_iff.mpr hattached

end Feed

namespace Source

/-! ## Steps of a source -/

/-- The bytes that can still be read. -/
def remaining (s : Source) : Bytes := s.buffer ++ s.feed.rest

/-- Closing a source leaves what was not read where it is. -/
theorem remaining_close (s : Source) : s.close.2.remaining = s.remaining := by
  have hrest : s.feed.close.2.rest = s.feed.rest := by
    unfold Feed.close
    split
    · split <;> rfl
    · rfl
  rw [remaining, close, remaining]
  exact congrArg _ hrest

/-- The feed is open, the buffer has room, and reads fail by interruption only. -/
structure Steady (s : Source) : Prop where
  attached : s.feed.attached = true
  capacity_pos : 0 < s.capacity
  interrupted : ∀ f ∈ s.feed.faults, f.error = .interrupted

/-- An interruption uses up a fault and leaves the stream as it is. -/
structure Interrupted (s s' : Source) : Prop where
  steady : s'.Steady
  remaining_eq : s'.remaining = s.remaining
  faults_lt : s'.feed.faults.length < s.feed.faults.length

/-- A step that is interrupted or ends with a result, which depends on the stream alone. -/
def Yields {α : Type} (result : Bytes → α → Source → Prop)
    (step : Source → Except IoError α × Source) (s : Source) : Prop :=
  (∃ s', step s = (.error .interrupted, s') ∧ Interrupted s s') ∨
    ∃ a s', step s = (.ok a, s') ∧ result s.remaining a s'

/-- The buffer holds bytes from the front of the stream, some if there are any. -/
structure Filled (stream bytes : Bytes) (s : Source) : Prop where
  steady : s.Steady
  remaining_eq : s.remaining = stream
  buffer_eq : s.buffer = bytes
  nil_of_nil : bytes = [] → stream = []

/-- The first byte was taken off the stream. -/
structure Pulled (stream : Bytes) (b : Option UInt8) (s : Source) : Prop where
  steady : s.Steady
  head_eq : b = stream.head?
  remaining_eq : s.remaining = stream.tail

variable {s : Source}

theorem available_yields (hs : s.Steady) : Yields Filled available s := by
  unfold Yields available
  by_cases hbuffer : s.buffer = []
  · rw [if_pos (List.isEmpty_iff.mpr hbuffer)]
    rcases s.feed.read_spec hs.capacity_pos with
      ⟨fault, hmem, heq⟩ | ⟨bytes, feed', heq, hrest, hfaults, hend⟩
    · rw [heq, hs.interrupted fault hmem]
      refine .inl ⟨_, rfl, ⟨hs.attached, hs.capacity_pos, ?_⟩, rfl, ?_⟩
      · exact fun f hf => hs.interrupted f (List.mem_of_mem_erase hf)
      · have := List.length_pos_of_mem hmem
        simp only [List.length_erase_of_mem hmem]
        omega
    · have halike := s.feed.alike_read s.capacity
      rw [heq] at halike
      rw [heq]
      have hattached := halike.attached_eq.trans hs.attached
      refine .inr ⟨bytes, _, rfl, ⟨hattached, hs.capacity_pos, ?_⟩, ?_, rfl, ?_⟩
      · exact fun f hf => hs.interrupted f (hfaults ▸ hf)
      · rw [remaining, remaining, hbuffer, hrest, List.nil_append]
      · intro hnil
        rw [remaining, hbuffer, hend hs.attached hnil, List.nil_append]
  · rw [if_neg fun h => hbuffer (List.isEmpty_iff.mp h)]
    exact .inr ⟨s.buffer, s, rfl, hs, rfl, rfl, fun h => absurd h hbuffer⟩

theorem Steady.consume_spec (hs : s.Steady) {n : Nat} (h : n ≤ s.buffer.length) :
    (s.consume n).Steady ∧ (s.consume n).remaining = s.remaining.drop n :=
  ⟨⟨hs.attached, hs.capacity_pos, hs.interrupted⟩, (List.drop_append_of_le_length h).symm⟩

theorem pull_yields (hs : s.Steady) : Yields Pulled pull s := by
  have hcapacity := hs.capacity_pos
  unfold Yields pull
  rw [if_neg (by omega)]
  rcases available_yields hs with ⟨s', heq, hinterrupted⟩ | ⟨bytes, s', heq, hfilled⟩
  · rw [heq]
    exact .inl ⟨s', rfl, hinterrupted⟩
  · obtain ⟨hs', hstream, rfl, hend⟩ := hfilled
    have hrest : s'.buffer = [] → s'.feed.rest = [] := fun hbuffer =>
      (List.append_eq_nil_iff.mp (hstream.trans (hend hbuffer))).2
    rw [heq]
    refine .inr ⟨_, s'.consume 1, rfl, ⟨hs'.attached, hs'.capacity_pos, hs'.interrupted⟩, ?_, ?_⟩
    · rw [← hstream, remaining]
      cases hbuffer : s'.buffer with
      | nil => rw [hrest hbuffer]; rfl
      | cons b rest => rfl
    · rw [← hstream, remaining, remaining, consume]
      cases hbuffer : s'.buffer with
      | nil => rw [hrest hbuffer]; rfl
      | cons b rest => rfl

/-! ## Reads that persist -/

/-- There are no more interruptions than faults, so a step that persists gives a result. -/
theorem persist_of_yields {α : Type} {result : Bytes → α → Source → Prop}
    {step : Source → Except IoError α × Source} (hstep : ∀ s, s.Steady → Yields result step s)
    {times : Nat} (hs : s.Steady) (htimes : s.feed.faults.length ≤ times) :
    ∃ a s', persist step times s = (.ok a, s') ∧ result s.remaining a s' := by
  induction times generalizing s with
  | zero =>
    rcases hstep s hs with ⟨s', -, hinterrupted⟩ | h
    · have := hinterrupted.faults_lt
      omega
    · exact h
  | succ times ih =>
    rw [persist]
    rcases hstep s hs with ⟨s', heq, hinterrupted⟩ | ⟨a, s', heq, hresult⟩
    · have := hinterrupted.faults_lt
      rw [heq, ← hinterrupted.remaining_eq]
      exact ih hinterrupted.steady (by omega)
    · rw [heq]
      exact ⟨a, s', rfl, hresult⟩

theorem Steady.ready_spec (hs : s.Steady) {result : Except IoError Bytes} {s' : Source}
    (h : s.ready = (result, s')) : ∃ bytes, result = .ok bytes ∧ Filled s.remaining bytes s' := by
  obtain ⟨bytes, t, heq, hfilled⟩ := persist_of_yields (fun _ => available_yields) hs (Nat.le_refl _)
  obtain ⟨rfl, rfl⟩ := Prod.mk.inj (h.symm.trans heq)
  exact ⟨bytes, rfl, hfilled⟩

theorem Steady.next_spec (hs : s.Steady) {result : Except IoError (Option UInt8)} {s' : Source}
    (h : s.next = (result, s')) : ∃ b, result = .ok b ∧ Pulled s.remaining b s' := by
  obtain ⟨b, t, heq, hpulled⟩ := persist_of_yields (fun _ => pull_yields) hs (Nat.le_refl _)
  obtain ⟨rfl, rfl⟩ := Prod.mk.inj (h.symm.trans heq)
  exact ⟨b, rfl, hpulled⟩

/-! ## Sources that stay open -/

theorem alike_available (s : Source) : s.feed.Alike s.available.2.feed := by
  unfold available
  split
  · have halike := s.feed.alike_read s.capacity
    split <;> rename_i heq <;> rw [heq] at halike <;> exact halike
  · exact .refl s.feed

theorem alike_pull (s : Source) : s.feed.Alike s.pull.2.feed := by
  unfold pull
  split
  · have halike := s.feed.alike_read 1
    split <;> rename_i heq <;> rw [heq] at halike <;> exact halike
  · have halike := s.alike_available
    split <;> rename_i heq <;> rw [heq] at halike <;> exact halike

theorem alike_persist {α : Type} {step : Source → Except IoError α × Source}
    (hstep : ∀ t : Source, t.feed.Alike (step t).2.feed) (times : Nat) (s : Source) :
    s.feed.Alike (persist step times s).2.feed := by
  induction times generalizing s with
  | zero => exact hstep s
  | succ times ih =>
    have hfirst := hstep s
    rw [persist]
    split
    · rename_i s' heq
      rw [heq] at hfirst
      exact hfirst.trans (ih s')
    · exact hfirst

theorem alike_next (s : Source) : s.feed.Alike s.next.2.feed := alike_persist alike_pull _ s

theorem alike_ready (s : Source) : s.feed.Alike s.ready.2.feed := alike_persist alike_available _ s

end Source

end DebugAdapter
