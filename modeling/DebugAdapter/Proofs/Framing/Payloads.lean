import DebugAdapter.Proofs.Framing.Frames

/-! # The payloads of a stream

What is decoded as a message is a payload that stands in the stream as it is. -/

namespace DebugAdapter.Framing

open Protocol

/-! ## Frames that were decoded -/

/-- The payload of a frame that is a message. -/
def messagePayload? (read : Except Error Message × Bytes) : Option Bytes :=
  match read.1 with
  | .ok _ => some read.2
  | .error _ => none

namespace Decoder

theorem decodes_succ {d d' d'' : Decoder} {n : Nat} {reads : List (Except Error Message × Bytes)}
    {result : Except Error Message} (h : d.decodes n = (reads, d'))
    (hdecode : d'.decode = (result, d'')) :
    d.decodes (n + 1) = (reads ++ [(result, d''.lastPayload)], d'') := by
  induction n generalizing d reads with
  | zero =>
    obtain ⟨rfl, rfl⟩ := Prod.mk.inj h
    simp only [decodes, hdecode]
    rfl
  | succ n ih =>
    rw [decodes] at h ⊢
    rcases hnext : d.decode with ⟨first, next⟩
    rcases hrest : next.decodes n with ⟨more, last⟩
    simp only [hnext, hrest] at h
    obtain ⟨rfl, rfl⟩ := Prod.mk.inj h
    simp only [ih hrest]
    rfl

/-- A message is what its payload says. -/
theorem ofPayload_of_decode {d d' : Decoder} {m : Message} (h : d.decode = (.ok m, d')) :
    Message.ofPayload d'.lastPayload = .ok m := by
  unfold decode at h
  split at h
  · exact nomatch (Prod.mk.inj h).1
  · split at h
    · exact nomatch (Prod.mk.inj h).1
    · obtain ⟨hok, rfl⟩ := Prod.mk.inj h
      exact hok

theorem ofPayload_of_mem_decodes {d : Decoder} {n : Nat} {m : Message} {payload : Bytes}
    (h : (.ok m, payload) ∈ (d.decodes n).1) : Message.ofPayload payload = .ok m := by
  induction n generalizing d with
  | zero => exact absurd h List.not_mem_nil
  | succ n ih =>
    rw [decodes] at h
    rcases hdecode : d.decode with ⟨result, d'⟩
    simp only [hdecode, List.mem_cons, Prod.mk.injEq] at h
    rcases h with ⟨rfl, rfl⟩ | h
    · exact ofPayload_of_decode hdecode
    · exact ih h

end Decoder

/-! ## Frames that were split off -/

/-- So many frames split off a stream, one after the other. -/
def splits : Nat → Bytes → List Split
  | 0, _ => []
  | n + 1, stream => split stream :: splits n (stream.drop (split stream).taken)

/-- The payload of a frame that is a message, as it stands in the stream. -/
def Split.messagePayload? (s : Split) : Option Bytes :=
  match s.result with
  | .ok _ => s.payload
  | .error _ => none

theorem payload_of_split {stream : Bytes} {m : Message} (h : (split stream).result = .ok m) :
    ∃ payload, (split stream).payload = some payload := by
  unfold split at h ⊢
  split
  · rename_i heq
    rw [heq] at h
    exact nomatch h
  · split <;> exact ⟨_, rfl⟩

/-- The messages of a stream have the payloads that stand in it, however the stream comes in. -/
theorem Decoder.decodes_payloads (n : Nat) (d : Decoder) (hs : d.source.Steady) :
    (d.decodes n).1.filterMap Framing.messagePayload? =
      (splits n d.source.remaining).filterMap Split.messagePayload? := by
  induction n generalizing d with
  | zero => rfl
  | succ n ih =>
    obtain ⟨source, hdecode, hsource, hrest, -⟩ := d.decode_eq_split hs
    have hfirst : Framing.messagePayload? ((split d.source.remaining).result,
        (split d.source.remaining).payload.getD d.lastPayload) =
          (split d.source.remaining).messagePayload? := by
      unfold Framing.messagePayload? Split.messagePayload?
      cases hresult : (split d.source.remaining).result with
      | error e => rfl
      | ok m =>
        obtain ⟨payload, hpayload⟩ := payload_of_split hresult
        rw [hpayload]
        rfl
    have hmore := ih ⟨source, (split d.source.remaining).payload.getD d.lastPayload⟩ hsource
    rw [decodes, hdecode, splits, List.filterMap_cons, List.filterMap_cons, hfirst]
    dsimp only at hmore ⊢
    rw [hmore, hrest]

end DebugAdapter.Framing
