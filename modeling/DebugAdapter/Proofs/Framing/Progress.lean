import DebugAdapter.Proofs.Framing.Splitter

/-! # Every frame uses up bytes

Whatever a source does, a read never puts bytes back, and a message that was decoded has taken its
header off the stream. So a finite stream holds finitely many messages. -/

namespace DebugAdapter

/-! ## Reads -/

namespace Feed

theorem rest_read (feed : Feed) (wanted : Nat) :
    (feed.read wanted).1.toOption.getD [] ++ (feed.read wanted).2.rest = feed.rest := by
  unfold read
  split
  · split
    · rfl
    · exact List.take_append_drop _ _
  · rfl

end Feed

namespace Source

/-- How many bytes a result has taken off the stream at least. -/
def cost : Except IoError (Option UInt8) → Nat
  | .ok (some _) => 1
  | _ => 0

theorem remaining_available (s : Source) : s.available.2.remaining = s.remaining := by
  unfold available
  split
  · rename_i hbuffer
    have hrest := s.feed.rest_read s.capacity
    rw [List.isEmpty_iff] at hbuffer
    split <;> rename_i heq <;> rw [heq] at hrest <;>
      simpa [remaining, hbuffer, Except.toOption] using hrest
  · rfl

theorem buffer_of_available {s s' : Source} {bytes : Bytes} (h : s.available = (.ok bytes, s')) :
    s'.buffer = bytes := by
  unfold available at h
  split at h
  · split at h
    · obtain ⟨hbytes, rfl⟩ := Prod.mk.inj h
      exact Except.ok.inj hbytes
    · exact nomatch (Prod.mk.inj h).1
  · obtain ⟨hbytes, rfl⟩ := Prod.mk.inj h
    exact Except.ok.inj hbytes

theorem length_remaining_consume_le (s : Source) (n : Nat) :
    (s.consume n).remaining.length ≤ s.remaining.length := by
  simp only [remaining, consume, List.length_append, List.length_drop]
  omega

theorem length_remaining_pull (s : Source) :
    cost s.pull.1 + s.pull.2.remaining.length ≤ s.remaining.length := by
  unfold pull
  split
  · -- There is no buffer, so the byte comes off the feed.
    have hlength := congrArg List.length (s.feed.rest_read 1)
    rw [List.length_append] at hlength
    split <;> rename_i heq <;> rw [heq] at hlength
    · rename_i bytes feed
      cases bytes <;>
        simp [cost, remaining, Except.toOption] at hlength ⊢ <;> omega
    · simp [cost, remaining, Except.toOption] at hlength ⊢
      omega
  · have hremaining := s.remaining_available
    split <;> rename_i heq <;> rw [heq] at hremaining
    · rename_i bytes s'
      have hbuffer := buffer_of_available heq
      rw [← hremaining]
      cases bytes <;> simp [cost, remaining, consume, hbuffer]
      omega
    · rw [← hremaining]
      simp [cost]

/-- What one attempt does not put back, a step that persists does not put back either. -/
theorem persist_le {α : Type} {step : Source → Except IoError α × Source}
    {price : Except IoError α → Nat}
    (hstep : ∀ s, price (step s).1 + (step s).2.remaining.length ≤ s.remaining.length)
    (times : Nat) (s : Source) :
    price (persist step times s).1 + (persist step times s).2.remaining.length ≤
      s.remaining.length := by
  induction times generalizing s with
  | zero => exact hstep s
  | succ times ih =>
    have hfirst := hstep s
    rw [persist]
    split
    · rename_i s' heq
      rw [heq] at hfirst
      have hrest := ih s'
      dsimp only at hfirst
      omega
    · exact hfirst

theorem length_remaining_next (s : Source) :
    cost s.next.1 + s.next.2.remaining.length ≤ s.remaining.length :=
  persist_le length_remaining_pull _ s

theorem length_remaining_ready (s : Source) :
    s.ready.2.remaining.length ≤ s.remaining.length := by
  let free : Except IoError Bytes → Nat := fun _ => 0
  have hstep : ∀ t : Source,
      free t.available.1 + t.available.2.remaining.length ≤ t.remaining.length := by
    intro t
    rw [remaining_available]
    exact Nat.le_of_eq (Nat.zero_add _)
  exact Nat.le_of_add_left_le (persist_le hstep s.feed.faults.length s)

end Source

/-! ## Frames -/

namespace Framing

open Protocol

theorem length_remaining_readBlock_le (left : Nat) (read : Bytes) (s : Source) :
    (readBlock left read s).2.remaining.length ≤ s.remaining.length := by
  fun_induction readBlock left read s with
  | case1 | case2 => exact Nat.le_refl _
  | case3 read s _ left b s' hnext ih =>
    have hlength := s.length_remaining_next
    rw [hnext] at hlength
    exact Nat.le_trans ih (Nat.le_of_add_left_le hlength)
  | case4 read s _ left s' hnext | case5 read s _ left e s' hnext =>
    have hlength := s.length_remaining_next
    rw [hnext] at hlength
    exact Nat.le_of_add_left_le hlength

/-- The end of a header block is never there before its first byte. -/
theorem length_remaining_readBlock_lt {left : Nat} {s s' : Source} {block : Bytes}
    (h : readBlock left [] s = (.ok block, s')) : s'.remaining.length < s.remaining.length := by
  have hopen : terminated [] = false := rfl
  cases left with
  | zero =>
    rw [readBlock, hopen] at h
    cases (Prod.mk.inj h).1
  | succ left =>
    have hlength := s.length_remaining_next
    rw [readBlock, hopen] at h
    simp only [Bool.false_eq_true, if_false] at h
    split at h
    · rename_i b t hnext
      have hrest := length_remaining_readBlock_le left [b] t
      rw [h] at hrest
      rw [hnext] at hlength
      simp only [Source.cost] at hlength
      dsimp only at hrest
      omega
    · cases (Prod.mk.inj h).1
    · cases (Prod.mk.inj h).1

theorem length_remaining_readMissing_le (bound missing : Nat) (s : Source) :
    (readMissing bound missing s).2.2.remaining.length ≤ s.remaining.length := by
  fun_induction readMissing bound missing s with
  | case1 | case2 => exact Nat.le_refl _
  | case3 bound missing s _ e s' hready | case4 bound missing s _ s' hready =>
    have hlength := s.length_remaining_ready
    rwa [hready] at hlength
  | case5 bound missing s _ bytes s' _ hready n error more t hmore ih =>
    have hlength := s.length_remaining_ready
    rw [hready] at hlength
    rw [hmore] at ih
    exact Nat.le_trans ih (Nat.le_trans (s'.length_remaining_consume_le n) hlength)

theorem Decoder.length_remaining_decode_lt {d d' : Decoder} {m : Message}
    (h : d.decode = (.ok m, d')) : d'.source.remaining.length < d.source.remaining.length := by
  have hblock : ∀ block source, readBlock headerLimit [] d.source = (.ok block, source) →
      source.remaining.length < d.source.remaining.length :=
    fun _ _ => length_remaining_readBlock_lt
  unfold decode readHeader at h
  split at h
  · exact nomatch (Prod.mk.inj h).1
  · rename_i length d₁ heq
    have hmissing := length_remaining_readMissing_le length length d₁.source
    split at heq
    · rename_i block source hread
      have hlt := hblock block source hread
      split at heq
      · obtain ⟨-, rfl⟩ := Prod.mk.inj heq
        split at h <;> rename_i hrest <;> rw [hrest] at hmissing <;>
          obtain ⟨-, rfl⟩ := Prod.mk.inj h <;> exact Nat.lt_of_le_of_lt hmissing hlt
      · exact nomatch (Prod.mk.inj heq).1
    · exact nomatch (Prod.mk.inj heq).1

/-! ## Streams stay open -/

theorem alike_readBlock (left : Nat) (read : Bytes) (s : Source) :
    s.feed.Alike (readBlock left read s).2.feed := by
  fun_induction readBlock left read s with
  | case1 | case2 => exact .refl _
  | case3 read s _ left b s' hnext ih =>
    have halike := s.alike_next
    rw [hnext] at halike
    exact halike.trans ih
  | case4 read s _ left s' hnext | case5 read s _ left e s' hnext =>
    have halike := s.alike_next
    rwa [hnext] at halike

theorem alike_readMissing (bound missing : Nat) (s : Source) :
    s.feed.Alike (readMissing bound missing s).2.2.feed := by
  fun_induction readMissing bound missing s with
  | case1 | case2 => exact .refl _
  | case3 bound missing s _ e s' hready | case4 bound missing s _ s' hready =>
    have halike := s.alike_ready
    rwa [hready] at halike
  | case5 bound missing s _ bytes s' _ hready n error more t hmore ih =>
    have halike := s.alike_ready
    rw [hready] at halike
    rw [hmore] at ih
    exact halike.trans ih

theorem Decoder.alike_readHeader (d : Decoder) : d.source.feed.Alike d.readHeader.2.source.feed := by
  have halike := alike_readBlock headerLimit [] d.source
  unfold readHeader
  split <;> rename_i heq <;> rw [heq] at halike
  · split <;> exact halike
  · exact halike

/-- Reading a message neither closes the stream nor changes whether it can be closed. -/
theorem Decoder.alike_decode (d : Decoder) : d.source.feed.Alike d.decode.2.source.feed := by
  have hheader := d.alike_readHeader
  unfold decode
  split
  · rename_i heq
    rwa [heq] at hheader
  · rename_i length t heq
    rw [heq] at hheader
    have hmissing := alike_readMissing length length t.source
    split <;> rename_i hrest <;> rw [hrest] at hmissing <;> exact hheader.trans hmissing

end Framing

end DebugAdapter
