import DebugAdapter.Framing.Decoder
import DebugAdapter.Proofs.Stream.Source

/-! # Decoding is splitting

What decoding a frame takes off a stream depends on the bytes of the stream alone. It is given by
a function that knows nothing of buffers, chunks and interruptions. -/

namespace DebugAdapter.Framing

open Protocol

/-! ## The splitter -/

/-- A header block ends with the end of its last line and an empty line. -/
def endsBlock (bytes : Bytes) : Bool := (lineEnd ++ lineEnd).isSuffixOf bytes

/-- Where the first header block of a stream ends, if that is within the limit. -/
def blockEnd? (stream : Bytes) : Option Nat :=
  (List.range (headerLimit + 1)).find? fun e => endsBlock (stream.take e)

/-- The header block at the front of a stream without the empty line, or the error that stands
in for it, and how many bytes are taken. -/
def splitBlock (stream : Bytes) : Except Error Bytes × Nat :=
  if stream = [] then (.error .connectionClosed, 0)
  else match blockEnd? stream with
    | some e => (.ok (stream.take (e - (lineEnd ++ lineEnd).length)), e)
    | none =>
      if headerLimit ≤ stream.length then (.error .headerTooLarge, headerLimit)
      else (.error (.io .unexpectedEof), stream.length)

/-- The length that the header block at the front of a stream gives. -/
def splitHeader (stream : Bytes) : Except Error Nat × Nat :=
  match splitBlock stream with
  | (.error e, taken) => (.error e, taken)
  | (.ok block, taken) =>
    match contentLength? block with
    | some n => (.ok n, taken)
    | none => (.error .invalidContentLength, taken)

/-- What a frame is split off as. -/
structure Split where
  result : Except Error Message
  /-- How many bytes are taken off the stream. -/
  taken : Nat
  /-- What was received of the payload, if the header could be read. -/
  payload : Option Bytes

/-- The frame at the front of a stream. -/
def split (stream : Bytes) : Split :=
  match splitHeader stream with
  | (.error e, taken) => ⟨.error e, taken, none⟩
  | (.ok n, e) =>
    if e + n ≤ stream.length then
      let payload := (stream.drop e).take n
      ⟨Message.ofPayload payload, e + n, some payload⟩
    else ⟨.error (.io .unexpectedEof), stream.length, some (stream.drop e)⟩

theorem blockEnd?_eq_some {stream : Bytes} {e : Nat} :
    blockEnd? stream = some e ↔ endsBlock (stream.take e) = true ∧ e ≤ headerLimit ∧
      ∀ j < e, endsBlock (stream.take j) = false := by
  simp only [blockEnd?, List.find?_range_eq_some, List.mem_range, Nat.lt_succ_iff,
    Bool.not_eq_true']

theorem blockEnd?_eq_none {stream : Bytes} :
    blockEnd? stream = none ↔ ∀ e ≤ headerLimit, endsBlock (stream.take e) = false := by
  simp only [blockEnd?, List.find?_range_eq_none, Nat.lt_succ_iff, Bool.not_eq_true']

/-- The first end lies within the stream. -/
theorem blockEnd?_le {stream : Bytes} {e : Nat} (h : blockEnd? stream = some e) :
    e ≤ stream.length := by
  obtain ⟨hend, -, hfirst⟩ := blockEnd?_eq_some.mp h
  refine Nat.le_of_not_lt fun hlt => ?_
  have hopen := hfirst stream.length hlt
  rw [List.take_of_length_le (by omega)] at hend
  rw [List.take_length, hend] at hopen
  exact Bool.noConfusion hopen

theorem splitBlock_of_end {stream : Bytes} {e : Nat} (h : blockEnd? stream = some e) :
    splitBlock stream = (.ok (stream.take (e - (lineEnd ++ lineEnd).length)), e) := by
  have hne : stream ≠ [] := by
    rintro rfl
    have hend := (blockEnd?_eq_some.mp h).1
    rw [List.take_nil] at hend
    exact absurd hend (by decide)
  rw [splitBlock, if_neg hne, h]

theorem splitBlock_of_long {stream : Bytes} (h : blockEnd? stream = none)
    (hlong : headerLimit ≤ stream.length) :
    splitBlock stream = (.error .headerTooLarge, headerLimit) := by
  have hne : stream ≠ [] := List.length_pos_iff.mp (Nat.lt_of_lt_of_le (by decide) hlong)
  rw [splitBlock, if_neg hne, h]
  exact if_pos hlong

theorem splitBlock_of_short {stream : Bytes} (h : blockEnd? stream = none)
    (hshort : stream.length < headerLimit) :
    splitBlock stream =
      (.error (if stream.isEmpty then .connectionClosed else .io .unexpectedEof),
        stream.length) := by
  rw [splitBlock, h]
  cases stream with
  | nil => rfl
  | cons b rest => exact if_neg (Nat.not_le_of_lt hshort)

theorem taken_splitBlock_le (stream : Bytes) : (splitBlock stream).2 ≤ stream.length := by
  unfold splitBlock
  split
  · exact Nat.zero_le _
  · split
    · rename_i e he
      exact blockEnd?_le he
    · split
      · assumption
      · exact Nat.le_refl _

theorem taken_splitHeader (stream : Bytes) : (splitHeader stream).2 = (splitBlock stream).2 := by
  unfold splitHeader
  split
  · rename_i heq
    rw [heq]
  · rename_i heq
    rw [heq]
    split <;> rfl

theorem split_of_error {stream : Bytes} {e : Error} {taken : Nat}
    (h : splitHeader stream = (.error e, taken)) : split stream = ⟨.error e, taken, none⟩ := by
  rw [split, h]

theorem split_of_whole {stream : Bytes} {n e : Nat} (h : splitHeader stream = (.ok n, e))
    (hn : e + n ≤ stream.length) :
    split stream =
      ⟨Message.ofPayload ((stream.drop e).take n), e + n, some ((stream.drop e).take n)⟩ := by
  rw [split, h]
  exact if_pos hn

theorem split_of_cut {stream : Bytes} {n e : Nat} (h : splitHeader stream = (.ok n, e))
    (hn : stream.length < e + n) :
    split stream = ⟨.error (.io .unexpectedEof), stream.length, some (stream.drop e)⟩ := by
  rw [split, h]
  exact if_neg (Nat.not_le_of_lt hn)

/-! ## Reading a header block -/

theorem terminated_eq (read : Bytes) : terminated read = endsBlock read.reverse := by
  rw [endsBlock, List.isSuffixOf, List.reverse_reverse]
  unfold terminated
  split
  · rfl
  · rename_i hopen
    refine (Bool.eq_false_iff.mpr fun h => ?_).symm
    obtain ⟨rest, rfl⟩ := List.isPrefixOf_iff_prefix.mp h
    exact hopen rest rfl

theorem take_drop_read {read rest stream : Bytes} (h : read.reverse ++ rest = stream) :
    stream.take read.length = read.reverse ∧ stream.drop read.length = rest := by
  rw [← h, ← List.length_reverse]
  exact ⟨List.take_left, List.drop_left⟩

/-- An end that was not read yet lies beyond what was read. -/
theorem open_of_not_terminated {read stream : Bytes} (hend : ¬ terminated read = true)
    (hread : stream.take read.length = read.reverse)
    (hopen : ∀ j < read.length, endsBlock (stream.take j) = false) :
    ∀ j ≤ read.length, endsBlock (stream.take j) = false := by
  intro j hj
  rcases Nat.lt_or_eq_of_le hj with hlt | rfl
  · exact hopen j hlt
  · rw [hread, ← terminated_eq]
    exact Bool.eq_false_iff.mpr hend

/-- The block is read byte by byte until its end, the limit or the end of the stream. What was
read so far holds no end before its last byte. -/
theorem readBlock_spec {left : Nat} {read stream : Bytes} {s : Source} (hs : s.Steady)
    (hstream : read.reverse ++ s.remaining = stream) (hleft : read.length + left = headerLimit)
    (hopen : ∀ j < read.length, endsBlock (stream.take j) = false) :
    ∃ s', readBlock left read s = ((splitBlock stream).1, s') ∧ s'.Steady ∧
      s'.remaining = stream.drop (splitBlock stream).2 := by
  fun_induction readBlock left read s with
  | case1 left read s hend =>
    obtain ⟨hread, hrest⟩ := take_drop_read hstream
    have hblock : blockEnd? stream = some read.length :=
      blockEnd?_eq_some.mpr ⟨by rwa [hread, ← terminated_eq], by omega, hopen⟩
    rw [splitBlock_of_end hblock]
    refine ⟨s, ?_, hs, hrest.symm⟩
    rw [List.reverse_drop, ← hread, List.take_take, Nat.min_eq_left (Nat.sub_le _ _)]
    rfl
  | case2 read s hend =>
    obtain ⟨hread, hrest⟩ := take_drop_read hstream
    have hopen := open_of_not_terminated hend hread hopen
    have hblock : blockEnd? stream = none := blockEnd?_eq_none.mpr fun e he => hopen e (by omega)
    have hlong : headerLimit ≤ stream.length := by
      rw [← hstream, List.length_append, List.length_reverse]
      omega
    rw [splitBlock_of_long hblock hlong]
    exact ⟨s, rfl, hs, by rw [← hrest, ← hleft]; rfl⟩
  | case3 read s hend left b s' hnext ih =>
    obtain ⟨c, hc, hpulled⟩ := hs.next_spec hnext
    obtain rfl := Except.ok.inj hc
    have hcons : s.remaining = b :: s'.remaining := by
      obtain ⟨rest, hrest⟩ := List.head?_eq_some_iff.mp hpulled.head_eq.symm
      rw [hpulled.remaining_eq, hrest]
      rfl
    have hstream' : (b :: read).reverse ++ s'.remaining = stream := by
      rw [← hstream, hcons, List.reverse_cons, List.append_assoc, List.singleton_append]
    have hread := (take_drop_read hstream).1
    have hopen' := open_of_not_terminated hend hread hopen
    exact ih hpulled.steady hstream' (by simp only [List.length_cons]; omega)
      fun j hj => hopen' j (Nat.le_of_lt_succ hj)
  | case4 read s hend left s' hnext =>
    obtain ⟨c, hc, hpulled⟩ := hs.next_spec hnext
    obtain rfl := Except.ok.inj hc
    have hnil : s.remaining = [] := List.head?_eq_none_iff.mp hpulled.head_eq.symm
    obtain ⟨hread, -⟩ := take_drop_read hstream
    rw [hnil, List.append_nil] at hstream
    have hlength : stream.length = read.length := by rw [← hstream, List.length_reverse]
    have hshort : stream.length < headerLimit := by omega
    have hopen := open_of_not_terminated hend hread hopen
    have hblock : blockEnd? stream = none := by
      refine blockEnd?_eq_none.mpr fun e _ => ?_
      rcases Nat.le_total e read.length with he | he
      · exact hopen e he
      · have hall := hopen read.length (Nat.le_refl _)
        rw [List.take_of_length_le (by omega)] at hall ⊢
        exact hall
    rw [splitBlock_of_short hblock hshort]
    refine ⟨s', ?_, hpulled.steady, ?_⟩
    · rw [← hstream, List.isEmpty_reverse]
    · rw [hpulled.remaining_eq, hnil, List.drop_length]
      rfl
  | case5 read s hend left e s' hnext =>
    obtain ⟨c, hc, -⟩ := hs.next_spec hnext
    exact nomatch hc

/-! ## Reading a payload -/

/-- What is missing is read a buffer at a time, and nothing beyond it. -/
theorem readMissing_spec {bound missing : Nat} {s : Source} (hs : s.Steady) (h : missing ≤ bound) :
    ∃ s', readMissing bound missing s =
        (if missing ≤ s.remaining.length then none else some (.io .unexpectedEof),
          s.remaining.take missing, s') ∧
      s'.Steady ∧ s'.remaining = s.remaining.drop missing := by
  fun_induction readMissing bound missing s with
  | case1 missing s =>
    obtain rfl := Nat.eq_zero_of_le_zero h
    exact ⟨s, rfl, hs, rfl⟩
  | case2 s bound => exact ⟨_, rfl, hs, rfl⟩
  | case3 bound missing s hmissing e s' hready =>
    obtain ⟨bytes, hbytes, -⟩ := hs.ready_spec hready
    exact nomatch hbytes
  | case4 bound missing s hmissing s' hready =>
    obtain ⟨bytes, hbytes, hfilled⟩ := hs.ready_spec hready
    obtain rfl := Except.ok.inj hbytes
    have hnil := hfilled.nil_of_nil rfl
    refine ⟨s', ?_, hfilled.steady, ?_⟩
    · rw [hnil, List.take_nil, if_neg (by simpa using hmissing)]
    · rw [hfilled.remaining_eq, hnil, List.drop_nil]
  | case5 bound missing s hmissing bytes s' hne hready n error more t hmore ih =>
    obtain ⟨_, hbytes, hfilled⟩ := hs.ready_spec hready
    obtain rfl := Except.ok.inj hbytes
    obtain ⟨hs', hstream, rfl, -⟩ := hfilled
    have hpos : 0 < s'.buffer.length := List.length_pos_iff.mpr hne
    have hn : n ≤ s'.buffer.length := Nat.min_le_left _ _
    have hle : n ≤ missing := Nat.min_le_right _ _
    obtain ⟨hconsumed, hrest⟩ := hs'.consume_spec hn
    rw [hstream] at hrest
    obtain ⟨t', heq, ht, hdrop⟩ := ih hconsumed (by omega)
    rw [hrest] at heq hdrop
    obtain ⟨herror, hmore', rfl⟩ : error = _ ∧ more = _ ∧ t = t' := by
      simpa only [Prod.mk.injEq] using hmore.symm.trans heq
    have hlength : n ≤ s.remaining.length := by
      rw [← hstream, Source.remaining, List.length_append]
      omega
    have htake : s'.buffer.take n = s.remaining.take n := by
      rw [← hstream, Source.remaining, List.take_append_of_le_length hn]
    have hadd : n + (missing - n) = missing := Nat.add_sub_cancel' hle
    refine ⟨t, ?_, ht, ?_⟩
    · rw [herror, hmore', htake, ← List.take_add, hadd, List.length_drop]
      simp only [Nat.sub_le_sub_iff_right hlength]
    · rw [hdrop, List.drop_drop, hadd]

/-! ## Decoding -/

namespace Decoder

theorem readHeader_spec {d : Decoder} (hs : d.source.Steady) :
    ∃ source, d.readHeader = ((splitHeader d.source.remaining).1, { d with source }) ∧
      source.Steady ∧
        source.remaining = d.source.remaining.drop (splitHeader d.source.remaining).2 := by
  obtain ⟨source, hblock, hsource, hrest⟩ :
      ∃ source, readBlock headerLimit [] d.source =
          ((splitBlock d.source.remaining).1, source) ∧ source.Steady ∧
        source.remaining = d.source.remaining.drop (splitBlock d.source.remaining).2 :=
    readBlock_spec hs rfl (Nat.zero_add _) fun _ h => absurd h (Nat.not_lt_zero _)
  refine ⟨source, ?_, hsource, by rw [hrest, taken_splitHeader]⟩
  rw [readHeader, hblock, splitHeader]
  obtain ⟨_ | block, taken⟩ := splitBlock d.source.remaining
  · rfl
  · dsimp only
    cases contentLength? block <;> rfl

theorem decode_of_header_error {d : Decoder} {error : Error} {taken : Nat} (hs : d.source.Steady)
    (h : splitHeader d.source.remaining = (.error error, taken)) :
    ∃ source, d.decode = (.error error, { d with source }) ∧ source.Steady ∧
      source.remaining = d.source.remaining.drop taken := by
  obtain ⟨source, hheader, hsource, hrest⟩ := readHeader_spec hs
  rw [h] at hheader hrest
  exact ⟨source, by rw [decode, hheader], hsource, hrest⟩

/-- Once the header is read, the payload is what follows it, as far as it is there. -/
theorem decode_of_header {d : Decoder} {n e : Nat} (hs : d.source.Steady)
    (h : splitHeader d.source.remaining = (.ok n, e)) :
    ∃ source, d.decode =
        (if n ≤ (d.source.remaining.drop e).length then
          Message.ofPayload ((d.source.remaining.drop e).take n)
        else .error (.io .unexpectedEof), ⟨source, (d.source.remaining.drop e).take n⟩) ∧
      source.Steady ∧ source.remaining = d.source.remaining.drop (e + n) := by
  obtain ⟨source, hheader, hsource, hrest⟩ := readHeader_spec hs
  rw [h] at hheader hrest
  obtain ⟨source', hmissing, hsource', hrest'⟩ := readMissing_spec hsource (Nat.le_refl n)
  rw [hrest] at hmissing hrest'
  refine ⟨source', ?_, hsource', hrest'.trans List.drop_drop⟩
  rw [decode, hheader]
  dsimp only at hmissing ⊢
  rw [hmissing]
  by_cases hn : n ≤ (d.source.remaining.drop e).length
  · rw [if_pos hn, if_pos hn]
  · rw [if_neg hn, if_neg hn]

theorem decode_of_whole {d : Decoder} {n e : Nat} (hs : d.source.Steady)
    (h : splitHeader d.source.remaining = (.ok n, e)) (hn : e + n ≤ d.source.remaining.length) :
    ∃ source, d.decode = (Message.ofPayload ((d.source.remaining.drop e).take n),
        ⟨source, (d.source.remaining.drop e).take n⟩) ∧
      source.Steady ∧ source.remaining = d.source.remaining.drop (e + n) := by
  obtain ⟨source, hdecode, hsource, hrest⟩ := decode_of_header hs h
  rw [if_pos (by rw [List.length_drop]; omega)] at hdecode
  exact ⟨source, hdecode, hsource, hrest⟩

theorem decode_of_cut {d : Decoder} {n e : Nat} (hs : d.source.Steady)
    (h : splitHeader d.source.remaining = (.ok n, e)) (hn : d.source.remaining.length < e + n) :
    ∃ source, d.decode = (.error (.io .unexpectedEof), ⟨source, d.source.remaining.drop e⟩) ∧
      source.Steady ∧ source.remaining = [] := by
  obtain ⟨source, hdecode, hsource, hrest⟩ := decode_of_header hs h
  have hlength : (d.source.remaining.drop e).length = d.source.remaining.length - e :=
    List.length_drop
  have htaken : e ≤ d.source.remaining.length := by
    have := taken_splitBlock_le d.source.remaining
    rwa [← taken_splitHeader, h] at this
  rw [if_neg (by omega), List.take_of_length_le (by omega)] at hdecode
  exact ⟨source, hdecode, hsource, hrest.trans (List.drop_of_length_le (by omega))⟩

/-- Decoding a frame is splitting it off the stream, whatever the capacity of the buffer and
however the stream comes in. -/
theorem decode_eq_split (d : Decoder) (hs : d.source.Steady) :
    ∃ source, d.decode = ((split d.source.remaining).result,
        ⟨source, (split d.source.remaining).payload.getD d.lastPayload⟩) ∧
      source.Steady ∧ source.remaining = d.source.remaining.drop (split d.source.remaining).taken ∧
      (split d.source.remaining).taken ≤ d.source.remaining.length := by
  have htaken := taken_splitBlock_le d.source.remaining
  rw [← taken_splitHeader] at htaken
  cases hsplit : splitHeader d.source.remaining with
  | mk result e =>
    rw [hsplit] at htaken
    cases result with
    | error error =>
      obtain ⟨source, hdecode, hsource, hrest⟩ := decode_of_header_error hs hsplit
      rw [split_of_error hsplit]
      exact ⟨source, hdecode, hsource, hrest, htaken⟩
    | ok n =>
      by_cases hn : e + n ≤ d.source.remaining.length
      · obtain ⟨source, hdecode, hsource, hrest⟩ := decode_of_whole hs hsplit hn
        rw [split_of_whole hsplit hn]
        exact ⟨source, hdecode, hsource, hrest, hn⟩
      · have hcut := Nat.lt_of_not_le hn
        obtain ⟨source, hdecode, hsource, hrest⟩ := decode_of_cut hs hsplit hcut
        rw [split_of_cut hsplit hcut]
        exact ⟨source, hdecode, hsource, hrest.trans List.drop_length.symm, Nat.le_refl _⟩

/-- A frame and the first byte of the next one, three bytes at most to a read, with interruptions
inside the empty line and inside the payload. -/
def chopped : Decoder where
  source := {
    feed := {
      rest := Utf8.encode
        "Content-Length: 36\r\n\r\n\x7b\"seq\":1,\"type\":\"event\",\"event\":\"e\"\x7dC"
      pace := fun position => position % 3
      faults := [⟨19, .interrupted⟩, ⟨19, .interrupted⟩, ⟨30, .interrupted⟩] }
    capacity := 2 }

theorem decode_eq_split_chopped :
    chopped.source.Steady ∧
      chopped.decode.1.toOption = some (.event { seq := 1, event := "e" }) ∧
      chopped.decode.2.lastPayload =
        Utf8.encode "\x7b\"seq\":1,\"type\":\"event\",\"event\":\"e\"\x7d" ∧
      chopped.decode.2.source.remaining = [0x43] := by
  have hs : chopped.source.Steady := ⟨rfl, by decide, by decide⟩
  obtain ⟨source, hdecode, -, hrest, -⟩ := decode_eq_split chopped hs
  have hsplit : (split chopped.source.remaining).result.toOption =
        some (.event { seq := 1, event := "e" }) ∧
      (split chopped.source.remaining).payload =
        some (Utf8.encode "\x7b\"seq\":1,\"type\":\"event\",\"event\":\"e\"\x7d") ∧
      chopped.source.remaining.drop (split chopped.source.remaining).taken = [0x43] := by
    decide +kernel
  obtain ⟨hresult, hpayload, htaken⟩ := hsplit
  rw [hdecode, hrest, hpayload, Option.getD_some]
  dsimp only
  exact ⟨hs, hresult, rfl, htaken⟩

end Decoder

end DebugAdapter.Framing
