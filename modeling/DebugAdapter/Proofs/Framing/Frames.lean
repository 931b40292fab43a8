import DebugAdapter.Proofs.Framing.Encoder
import DebugAdapter.Proofs.Framing.Header
import DebugAdapter.Proofs.Framing.Splitter

/-! # Streams of frames

Frames written one after the other are read back one after the other, whatever their payloads are.
If the stream is cut off, the frames before the cut are read back, and the end is reported as clean
only where a frame ends. -/

namespace DebugAdapter.Framing

open Protocol

/-! ## The header of a frame -/

/-- Before its end, a block without carriage returns does not seem to end. -/
theorem endsBlock_take_of_lt {text rest : Bytes} (h : 0x0D ∉ text) {j : Nat}
    (hj : j < text.length + (lineEnd ++ lineEnd).length) :
    endsBlock ((text ++ (lineEnd ++ lineEnd) ++ rest).take j) = false := by
  refine Bool.eq_false_iff.mpr fun hend => ?_
  obtain ⟨before, hbefore⟩ := List.isSuffixOf_iff_suffix.mp hend
  have hlength := congrArg List.length hbefore
  rw [List.length_append, List.length_take] at hlength
  have hlt : before.length < text.length := by omega
  have hget : (text ++ (lineEnd ++ lineEnd) ++ rest)[before.length]? = some 0x0D := by
    rw [← List.getElem?_take_of_lt (show before.length < j by simp [lineEnd] at hlength; omega),
      ← hbefore, List.getElem?_append_right (Nat.le_refl _), Nat.sub_self]
    rfl
  rw [List.append_assoc, List.getElem?_append_left hlt] at hget
  exact h (List.mem_of_getElem? hget)

theorem return_not_mem_block (length : Nat) : 0x0D ∉ block length := by
  intro h
  obtain ⟨c, hc, heq⟩ := List.mem_map.mp h
  have hnat : c.toNat % 256 = 13 := congrArg UInt8.toNat heq
  have := mem_lengthLine hc
  omega

theorem blockEnd?_header_append {length : Nat} (h : length ≤ lengthLimit) (rest : Bytes) :
    blockEnd? (header length ++ rest) = some (header length).length := by
  have hlimit : headerLimit = 8192 := rfl
  have hle := length_header_le h
  refine blockEnd?_eq_some.mpr ⟨?_, by omega, fun j hj => ?_⟩
  · rw [List.take_left, header_eq, endsBlock]
    exact List.isSuffixOf_iff_suffix.mpr (List.suffix_append _ _)
  · rw [header_eq] at hj ⊢
    exact endsBlock_take_of_lt (return_not_mem_block length) (by rwa [List.length_append] at hj)

theorem splitHeader_header_append {length : Nat} (h : length ≤ lengthLimit) (rest : Bytes) :
    splitHeader (header length ++ rest) = (.ok length, (header length).length) := by
  have htext : (header length ++ rest).take
      ((header length).length - (lineEnd ++ lineEnd).length) = block length := by
    rw [header_eq, List.length_append, Nat.add_sub_cancel, List.append_assoc, List.take_left]
  rw [splitHeader, splitBlock_of_end (blockEnd?_header_append h rest), htext]
  dsimp only
  rw [contentLength?_block h]

/-- In a header that is cut off, no end is found. -/
theorem blockEnd?_header_take {length j : Nat} (hj : j < (header length).length) :
    blockEnd? ((header length).take j) = none := by
  refine blockEnd?_eq_none.mpr fun e _ => ?_
  have hlt : min e j < (header length).length := Nat.lt_of_le_of_lt (Nat.min_le_right _ _) hj
  rw [List.take_take, ← List.append_nil (header length)]
  rw [header_eq] at hlt ⊢
  exact endsBlock_take_of_lt (return_not_mem_block length) (by rwa [List.length_append] at hlt)

/-! ## A frame at the front of a stream -/

/-- The error at the end of a stream. -/
def endOf (clean : Prop) [Decidable clean] : Error :=
  if clean then .connectionClosed else .io .unexpectedEof

theorem splitHeader_frame_append {payload : Bytes} (h : payload.length ≤ lengthLimit)
    (rest : Bytes) :
    splitHeader (frame payload ++ rest) = (.ok payload.length, (header payload.length).length) := by
  rw [frame, List.append_assoc]
  exact splitHeader_header_append h _

theorem splitHeader_header_take {length k : Nat} (h : length ≤ lengthLimit)
    (hk : k < (header length).length) :
    splitHeader ((header length).take k) = (.error (endOf (k = 0)), k) := by
  have hlimit : headerLimit = 8192 := rfl
  have hle := length_header_le h
  have hlength : ((header length).take k).length = k := List.length_take_of_le (Nat.le_of_lt hk)
  rw [splitHeader, splitBlock_of_short (blockEnd?_header_take hk) (by omega), hlength]
  simp only [endOf, List.isEmpty_iff, ← List.length_eq_zero_iff, hlength]

namespace Decoder

variable {d : Decoder}

/-- A frame is decoded whatever follows it, and nothing of what follows is lost. -/
theorem decode_frame_append {payload rest : Bytes} (hs : d.source.Steady)
    (h : payload.length ≤ lengthLimit) (hd : d.source.remaining = frame payload ++ rest) :
    ∃ source, d.decode = (Message.ofPayload payload, ⟨source, payload⟩) ∧ source.Steady ∧
      source.remaining = rest := by
  have hheader := splitHeader_frame_append h rest
  have hpayload : ((frame payload ++ rest).drop (header payload.length).length).take
      payload.length = payload := by
    rw [frame, List.append_assoc, List.drop_left, List.take_left]
  have hlength := length_frame payload
  rw [← hd] at hheader hpayload
  obtain ⟨source, hdecode, hsource, hrest⟩ :=
    decode_of_whole hs hheader (by rw [hd, List.length_append]; omega)
  rw [hpayload] at hdecode
  rw [hd, ← hlength, List.drop_left] at hrest
  exact ⟨source, hdecode, hsource, hrest⟩

/-- A frame that is cut off is not delivered, and what was received of it is used up. -/
theorem decode_frame_take {payload : Bytes} {k : Nat} (hs : d.source.Steady)
    (h : payload.length ≤ lengthLimit) (hk : k < (frame payload).length)
    (hd : d.source.remaining = (frame payload).take k) :
    d.decode.1 = .error (endOf (k = 0)) ∧ d.decode.2.source.remaining = [] := by
  rcases Nat.lt_or_ge k (header payload.length).length with hcut | hwhole
  · -- The cut is inside the header.
    have hheader := splitHeader_header_take h hcut
    rw [frame, List.take_append_of_le_length (Nat.le_of_lt hcut)] at hd
    rw [← hd] at hheader
    obtain ⟨source, hdecode, -, hrest⟩ := decode_of_header_error hs hheader
    rw [hdecode]
    exact ⟨rfl, by rw [hrest, hd, List.drop_take_self]⟩
  · -- The header is read, and the payload is too short.
    obtain ⟨j, rfl⟩ := Nat.exists_eq_add_of_le hwhole
    have hheader := splitHeader_header_append h (payload.take j)
    rw [frame, List.take_length_add_append] at hd
    rw [← hd] at hheader
    have hpos := length_header_pos payload.length
    rw [length_frame] at hk
    obtain ⟨source, hdecode, -, hrest⟩ := decode_of_cut hs hheader (by
      rw [hd, List.length_append, List.length_take_of_le (by omega)]
      omega)
    rw [hdecode]
    exact ⟨by rw [endOf, if_neg (by omega)], hrest⟩

end Decoder

/-! ## Many frames -/

/-- What an encoder writes for payloads, one after the other. -/
def wire (payloads : List Bytes) : Bytes := (Encoder.writeFrames payloads {}).sink.bytes

/-- How many frames lie within the first bytes of what is written. -/
def wholeFrames (payloads : List Bytes) (k : Nat) : Nat :=
  (List.range payloads.length).countP fun i => (wire (payloads.take (i + 1))).length ≤ k

/-- Some frames take up exactly the first bytes of what is written. -/
def IsBoundary (payloads : List Bytes) (k : Nat) : Prop :=
  ∃ n ≤ payloads.length, (wire (payloads.take n)).length = k

instance (payloads : List Bytes) (k : Nat) : Decidable (IsBoundary payloads k) :=
  inferInstanceAs (Decidable (∃ n ≤ payloads.length, (wire (payloads.take n)).length = k))

/-- So many frames in a row, each with the payload that is kept after it. -/
def Decoder.decodes : Nat → Decoder → List (Except Error Message × Bytes) × Decoder
  | 0, d => ([], d)
  | n + 1, d =>
    let (result, d) := d.decode
    let (more, d') := d.decodes n
    ((result, d.lastPayload) :: more, d')

theorem wire_eq (payloads : List Bytes) : wire payloads = payloads.flatMap frame :=
  Encoder.writeFrames_of_accepts payloads .default

theorem wire_nil : wire [] = [] := rfl

theorem wire_cons (payload : Bytes) (rest : List Bytes) :
    wire (payload :: rest) = frame payload ++ wire rest := by
  rw [wire_eq, wire_eq, List.flatMap_cons]

section

variable {payload : Bytes} {k : Nat} (rest : List Bytes)

theorem wholeFrames_of_lt (h : k < (frame payload).length) :
    wholeFrames (payload :: rest) k = 0 := by
  refine List.countP_eq_zero.mpr fun i _ => ?_
  rw [List.take_succ_cons, wire_cons, List.length_append, decide_eq_true_eq]
  omega

theorem wholeFrames_add :
    wholeFrames (payload :: rest) ((frame payload).length + k) = wholeFrames rest k + 1 := by
  simp only [wholeFrames, List.length_cons, List.range_succ_eq_map, List.countP_cons,
    List.countP_map, Function.comp_def, List.take_succ_cons, List.take_zero, wire_cons, wire_nil,
    List.length_append, List.length_nil, Nat.add_le_add_iff_left, Nat.zero_le, decide_true, if_true]

theorem isBoundary_of_lt (h : k < (frame payload).length) :
    IsBoundary (payload :: rest) k ↔ k = 0 := by
  constructor
  · rintro ⟨_ | n, -, rfl⟩
    · rfl
    · rw [List.take_succ_cons, wire_cons, List.length_append] at h
      omega
  · rintro rfl
    exact ⟨0, Nat.zero_le _, rfl⟩

theorem isBoundary_add :
    IsBoundary (payload :: rest) ((frame payload).length + k) ↔ IsBoundary rest k := by
  have hpos := length_frame payload ▸ Nat.add_pos_left (length_header_pos payload.length) _
  constructor
  · rintro ⟨_ | n, hn, heq⟩
    · rw [List.take_zero, wire_nil, List.length_nil] at heq
      omega
    · rw [List.take_succ_cons, wire_cons, List.length_append] at heq
      exact ⟨n, Nat.le_of_succ_le_succ hn, Nat.add_left_cancel heq⟩
  · rintro ⟨n, hn, rfl⟩
    exact ⟨n + 1, Nat.succ_le_succ hn, by rw [List.take_succ_cons, wire_cons, List.length_append]⟩

end

namespace Decoder

/-- Of a stream of frames that is cut off anywhere, the frames before the cut are decoded in
order, valid messages or not. Then the stream is at its end, which is clean between two frames
only. -/
theorem decodes_wire_take (payloads : List Bytes) (k : Nat) (d : Decoder)
    (hlength : ∀ payload ∈ payloads, payload.length ≤ lengthLimit)
    (hk : k ≤ (wire payloads).length) (hs : d.source.Steady)
    (hd : d.source.remaining = (wire payloads).take k) :
    ∃ d', d.decodes (wholeFrames payloads k) =
        ((payloads.take (wholeFrames payloads k)).map fun payload =>
          (Message.ofPayload payload, payload), d') ∧
      d'.decode.1 = .error (endOf (IsBoundary payloads k)) ∧ d'.decode.2.source.remaining = [] := by
  induction payloads generalizing k d with
  | nil =>
    obtain rfl := Nat.eq_zero_of_le_zero hk
    have hheader : splitHeader d.source.remaining = (.error .connectionClosed, 0) := by
      rw [hd]
      rfl
    have hclean : IsBoundary [] 0 := ⟨0, Nat.le_refl _, rfl⟩
    obtain ⟨source, hdecode, -, hrest⟩ := decode_of_header_error hs hheader
    refine ⟨d, rfl, ?_, ?_⟩
    · rw [hdecode, endOf, if_pos hclean]
    · rw [hdecode]
      exact hrest.trans hd
  | cons payload rest ih =>
    obtain ⟨hpayload, hrest⟩ := List.forall_mem_cons.mp hlength
    rw [wire_cons] at hk hd
    rcases Nat.lt_or_ge k (frame payload).length with hcut | hwhole
    · rw [List.take_append_of_le_length (Nat.le_of_lt hcut)] at hd
      obtain ⟨hend, hnil⟩ := decode_frame_take hs hpayload hcut hd
      rw [wholeFrames_of_lt rest hcut]
      simp only [isBoundary_of_lt rest hcut]
      exact ⟨d, rfl, hend, hnil⟩
    · obtain ⟨k, rfl⟩ := Nat.exists_eq_add_of_le hwhole
      rw [List.take_length_add_append] at hd
      obtain ⟨source, hdecode, hsource, hremaining⟩ := decode_frame_append hs hpayload hd
      rw [List.length_append] at hk
      obtain ⟨d', hdecodes, hend, hnil⟩ :=
        ih k ⟨source, payload⟩ hrest (Nat.le_of_add_le_add_left hk) hsource hremaining
      refine ⟨d', ?_, ?_, hnil⟩
      · rw [wholeFrames_add, decodes, hdecode]
        dsimp only
        rw [hdecodes, List.take_succ_cons, List.map_cons]
      · simp only [isBoundary_add]
        exact hend

/-- A payload that looks like a header, an event and an array. -/
def mixedPayloads : List Bytes :=
  ["\r\n\r\nContent-Length: 5\r\n\r\n", "\x7b\"seq\":1,\"type\":\"event\",\"event\":\"e\"\x7d",
    "[]"].map Utf8.encode

/-- The frames of these payloads without the last byte, which come in three bytes at most to a
read. -/
def torn : Decoder where
  source := {
    feed := {
      rest := (wire mixedPayloads).take 127
      pace := fun position => position % 3
      faults := [⟨20, .interrupted⟩, ⟨30, .interrupted⟩, ⟨127, .interrupted⟩] }
    capacity := 2 }

theorem decodes_wire_take_torn :
    (wire mixedPayloads).length = 128 ∧ torn.source.Steady ∧
      (torn.decodes 2).1.map (fun (result, payload) => (result.toOption, payload)) =
        [(none, Utf8.encode "\r\n\r\nContent-Length: 5\r\n\r\n"),
          (some (.event { seq := 1, event := "e" }),
            Utf8.encode "\x7b\"seq\":1,\"type\":\"event\",\"event\":\"e\"\x7d")] ∧
      (torn.decodes 2).2.decode.1 = .error (.io .unexpectedEof) := by
  have hlength : (wire mixedPayloads).length = 128 := by decide +kernel
  have hs : torn.source.Steady := ⟨rfl, by decide, by decide⟩
  obtain ⟨d', hdecodes, hend, -⟩ := decodes_wire_take mixedPayloads 127 torn (by decide +kernel)
    (by omega) hs rfl
  have hwhole : wholeFrames mixedPayloads 127 = 2 := by decide +kernel
  have hcut : ¬ IsBoundary mixedPayloads 127 := by decide +kernel
  have hmessages : (mixedPayloads.take 2).map
      (fun payload => ((Message.ofPayload payload).toOption, payload)) =
        [(none, Utf8.encode "\r\n\r\nContent-Length: 5\r\n\r\n"),
          (some (.event { seq := 1, event := "e" }),
            Utf8.encode "\x7b\"seq\":1,\"type\":\"event\",\"event\":\"e\"\x7d")] := by
    decide +kernel
  rw [hwhole] at hdecodes
  rw [endOf, if_neg hcut] at hend
  rw [hdecodes]
  dsimp only
  rw [List.map_map]
  exact ⟨hlength, hs, hmessages, hend⟩

end Decoder

end DebugAdapter.Framing
