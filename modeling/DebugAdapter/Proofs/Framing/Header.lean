import DebugAdapter.Framing.Header
import DebugAdapter.Proofs.Text.Decimal
import DebugAdapter.Proofs.Text.Utf8

/-! # Headers are read back

The header block that is written for a payload has one line, which gives the length of the payload,
and holds no carriage return. -/

namespace DebugAdapter.Framing

/-! ## Lines and fields -/

theorem lines_of_not_mem {text : List Char} (h : '\r' ∉ text) : lines text = [text] := by
  induction text with
  | nil => rfl
  | cons c rest ih =>
    have hc : c ≠ '\r' := fun he => h (he ▸ List.mem_cons_self)
    have hrest : '\r' ∉ rest := fun hm => h (List.mem_cons_of_mem _ hm)
    rw [lines, ih hrest]
    exact fun _ he => absurd he hc

theorem field?_append {name : List Char} (h : ':' ∉ name) (value : List Char) :
    field? (name ++ ':' :: value) = some (name, value) := by
  have hname : ∀ c ∈ name, decide (c ≠ ':') = true := fun c hc =>
    decide_eq_true fun he => h (he ▸ hc)
  rw [field?, List.dropWhile_append_of_pos hname, List.takeWhile_append_of_pos hname]
  simp

theorem dropWhile_isBlank_of_not_blank {text : List Char}
    (h : ∀ c ∈ text, Text.isBlank c = false) : text.dropWhile Text.isBlank = text := by
  cases text with
  | nil => rfl
  | cons c rest => exact List.dropWhile_cons_of_neg (by simp [h c List.mem_cons_self])

theorem trim_of_not_blank {text : List Char} (h : ∀ c ∈ text, Text.isBlank c = false) :
    Text.trim text = text := by
  rw [Text.trim, dropWhile_isBlank_of_not_blank h,
    dropWhile_isBlank_of_not_blank fun c hc => h c (List.mem_reverse.mp hc), List.reverse_reverse]

theorem trim_cons_of_blank {c : Char} (h : Text.isBlank c = true) (text : List Char) :
    Text.trim (c :: text) = Text.trim text := by
  rw [Text.trim, List.dropWhile_cons_of_pos h, Text.trim]

/-! ## The written block -/

/-- The line of a header block. -/
def lengthLine (length : Nat) : List Char :=
  lengthName ++ ':' :: ' ' :: Nat.toDigits 10 length

/-- The header block for a payload, without the empty line. -/
def block (length : Nat) : Bytes := (lengthLine length).map Char.toUInt8

theorem header_eq (length : Nat) : header length = block length ++ (lineEnd ++ lineEnd) := by
  simp only [header, block, lengthLine, Decimal.encode, List.map_append, List.map_cons,
    List.append_assoc, List.cons_append, List.nil_append]
  rfl

theorem isDigit_of_mem_digits {length : Nat} {c : Char} (h : c ∈ Nat.toDigits 10 length) :
    0x30 ≤ c.toNat ∧ c.toNat ≤ 0x39 :=
  Char.isDigit_iff_toNat.mp (Nat.isDigit_of_mem_toDigits (by decide) (by decide) h)

/-- The line is made of letters, digits and marks. -/
theorem mem_lengthLine {length : Nat} {c : Char} (h : c ∈ lengthLine length) :
    0x20 ≤ c.toNat ∧ c.toNat < 0x80 := by
  have hname : lengthName.all (fun c => 0x20 ≤ c.toNat ∧ c.toNat < 0x80) = true := by decide
  rcases List.mem_append.mp h with h | h
  · exact of_decide_eq_true (List.all_eq_true.mp hname c h)
  · rcases List.mem_cons.mp h with rfl | h
    · decide
    · rcases List.mem_cons.mp h with rfl | h
      · decide
      · have := isDigit_of_mem_digits h
        omega

theorem decode?_block (length : Nat) :
    Utf8.decode? (block length) = some (String.ofList (lengthLine length)) := by
  rw [block, ← Utf8.encode_of_lt fun c hc => (mem_lengthLine hc).2]
  exact Utf8.decode?_encode _

/-- The only value of a length header is the one that was written. -/
theorem lengthValues_lengthLine (length : Nat) :
    lengthValues (lengthLine length) = [Nat.toDigits 10 length] := by
  have hreturn : '\r' ∉ lengthLine length := fun h => absurd (mem_lengthLine h).1 (by decide)
  have hfield : field? (lengthLine length) = some (lengthName, ' ' :: Nat.toDigits 10 length) :=
    field?_append (by decide) _
  have hblank : ∀ c ∈ Nat.toDigits 10 length, Text.isBlank c = false := by
    intro c hc
    obtain ⟨hlow, hhigh⟩ := isDigit_of_mem_digits hc
    simp only [Text.isBlank, Bool.or_eq_false_iff, Bool.and_eq_false_iff, decide_eq_false_iff_not,
      beq_eq_false_iff_ne]
    omega
  have htrim : Text.trim (' ' :: Nat.toDigits 10 length) = Nat.toDigits 10 length := by
    rw [trim_cons_of_blank rfl, trim_of_not_blank hblank]
  have hname : isLengthName lengthName = true := by decide
  rw [lengthValues, lines_of_not_mem hreturn, List.filterMap_cons, hfield]
  simp only [hname, htrim, if_true, List.filterMap_nil]

/-- The length of a payload is read back from its header block. -/
theorem contentLength?_block {length : Nat} (h : length ≤ lengthLimit) :
    contentLength? (block length) = some length := by
  have hdigits : (Nat.toDigits 10 length).all Char.isDigit = true :=
    List.all_eq_true.mpr fun c hc => Nat.isDigit_of_mem_toDigits (by decide) (by decide) hc
  have hlength : length? (Nat.toDigits 10 length) = some length := by
    rw [length?, if_pos ⟨Nat.toDigits_ne_nil, hdigits⟩, Nat.ofDigitChars_ten_toDigits]
    exact if_pos h
  rw [contentLength?, decode?_block, Option.bind_eq_bind, Option.bind_some, String.toList_ofList,
    lengthValues_lengthLine, List.mapM_cons, hlength]
  rfl

/-- A header for a payload that is not too long stays far below the limit. -/
theorem length_header_le {length : Nat} (h : length ≤ lengthLimit) :
    (header length).length ≤ 30 := by
  have hdigits : (Decimal.encode length).length ≤ 10 :=
    Decimal.length_encode_le (by decide) (Nat.lt_of_le_of_lt h (by decide))
  have hname : lengthName.length = 14 := rfl
  simp only [header, lineEnd, List.length_append, List.length_map, List.length_cons,
    List.length_nil, hname]
  omega

theorem length_frame (payload : Bytes) :
    (frame payload).length = (header payload.length).length + payload.length :=
  List.length_append

/-- No frame is the beginning of another one. -/
theorem eq_of_frame_append {p q rest : Bytes} (h : frame p ++ rest = frame q) :
    p = q ∧ rest = [] := by
  have hparts : ∀ payload more : Bytes, frame payload ++ more =
      (lengthName.map Char.toUInt8 ++ [0x3A, 0x20]) ++
        (Decimal.encode payload.length ++ 0x0D :: (0x0A :: 0x0D :: 0x0A :: (payload ++ more))) := by
    intro payload more
    simp [frame, header, lineEnd, List.append_assoc]
  rw [← List.append_nil (frame q), hparts, hparts] at h
  obtain ⟨hlength, hpayload⟩ :=
    Decimal.eq_of_encode_append (by decide) (by decide) (List.append_cancel_left h)
  have hrest : p ++ rest = q ++ [] := by simpa using hpayload
  exact List.append_inj hrest hlength

theorem frame_injective {p q : Bytes} (h : frame p = frame q) : p = q :=
  (eq_of_frame_append ((List.append_nil _).trans h)).1

theorem length_header_pos (length : Nat) : 0 < (header length).length := by
  rw [header_eq, List.length_append]
  exact Nat.add_pos_right _ (by decide)

end DebugAdapter.Framing
