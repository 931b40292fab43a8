import DebugAdapter.Json.Printer
import DebugAdapter.Json.Reader
import DebugAdapter.Proofs.Text.Utf8

/-! # Strings read back

A printed string consists of bytes that stand for themselves and of escapes. A reader that keeps
the string gets its text, one that skips it stops at the same place. -/

namespace DebugAdapter.Json.Reader

/-! ## Hexadecimal digits -/

theorem hexValue?_hexDigit : ∀ n < 16, hexValue? (Printer.hexDigit n) = some n := by decide

theorem unit_hexDigits {m n : Nat} (hm : m < 16) (hn : n < 16) (rest : Bytes) :
    unit (0x30 :: 0x30 :: Printer.hexDigit m :: Printer.hexDigit n :: rest) = .ok (m * 16 + n) := by
  have h0 : hexValue? 0x30 = some 0 := rfl
  simp only [unit, h0, hexValue?_hexDigit m hm, hexValue?_hexDigit n hn, Nat.zero_mul, Nat.zero_add]

/-! ## Characters -/

/-- A byte that stands for itself inside a string. -/
def isPlain (b : UInt8) : Bool := b ≠ 0x22 && b ≠ 0x5C && 0x20 ≤ b

/-- The escape that prints a character, read from the byte after the backslash. -/
structure EscapeOf (c : Char) (escape : Bytes) : Prop where
  printed : Printer.character c = 0x5C :: escape
  kept : ∀ rest, keptEscape (escape ++ rest) = .ok (String.utf8EncodeChar c, escape.length)
  skipped : ∀ rest, skippedEscape (escape ++ rest) = .ok ([], escape.length)

theorem escapeOf_letter {c : Char} {letter : UInt8} (h : Printer.character c = [0x5C, letter])
    (hl : plainEscape? letter = some (UInt8.ofNat c.toNat)) (hc : c.toNat ≤ 0x7F) :
    EscapeOf c [letter] := by
  have he : String.utf8EncodeChar c = [UInt8.ofNat c.toNat] := by
    rw [String.utf8EncodeChar]
    exact if_pos hc
  refine ⟨h, fun rest => ?_, fun rest => ?_⟩
  · rw [List.singleton_append, keptEscape, hl, he]
    rfl
  · rw [List.singleton_append, skippedEscape, hl]
    rfl

theorem escapeOf_control {c : Char} (h : c.toNat < 0x20)
    (hp : Printer.character c = [0x5C, 0x75, 0x30, 0x30, Printer.hexDigit (c.toNat / 16),
      Printer.hexDigit (c.toNat % 16)]) :
    EscapeOf c [0x75, 0x30, 0x30, Printer.hexDigit (c.toNat / 16),
      Printer.hexDigit (c.toNat % 16)] := by
  have hletter : plainEscape? 0x75 = none := rfl
  have hunit := fun rest => unit_hexDigits (show c.toNat / 16 < 16 by omega)
    (Nat.mod_lt c.toNat (show 0 < 16 by decide)) rest
  rw [show c.toNat / 16 * 16 + c.toNat % 16 = c.toNat by omega] at hunit
  refine ⟨hp, fun rest => ?_, fun rest => ?_⟩
  · simp only [List.cons_append, List.nil_append, keptEscape, hletter]
    rw [if_neg (by decide), hunit]
    simp only [bind, Except.bind]
    rw [if_neg (by omega), if_neg (by omega), Char.ofNat_toNat]
    rfl
  · simp only [List.cons_append, List.nil_append, skippedEscape, hletter]
    rw [if_neg (by decide), hunit]
    rfl

theorem isPlain_ofNat {n : Nat} (hn : n < 256) (h : 0x20 ≤ n) (hq : n ≠ 0x22) (hb : n ≠ 0x5C) :
    isPlain (UInt8.ofNat n) = true := by
  simp only [isPlain, ← UInt8.toNat_inj, ne_eq, UInt8.le_iff_toNat_le, Bool.and_eq_true,
    decide_eq_true_eq, UInt8.toNat_ofNat', Nat.mod_eq_of_lt hn]
  exact ⟨⟨hq, hb⟩, h⟩

theorem isPlain_of_mem_utf8EncodeChar {c : Char} (h : 0x20 ≤ c.toNat) (hq : c.toNat ≠ 0x22)
    (hb : c.toNat ≠ 0x5C) : ∀ b ∈ String.utf8EncodeChar c, isPlain b = true := by
  have hv : c.toNat < 0xD800 ∨ 0xDFFF < c.toNat ∧ c.toNat < 0x110000 := c.valid
  intro b hmem
  rw [String.utf8EncodeChar] at hmem
  change b ∈ (if c.toNat ≤ 0x7F then _ else if c.toNat ≤ 0x7FF then _
    else if c.toNat ≤ 0xFFFF then _ else _) at hmem
  change 0x20 ≤ c.val.toNat at h
  change c.val.toNat ≠ 0x22 at hq
  change c.val.toNat ≠ 0x5C at hb
  split at hmem
  · rename_i hle
    simp only [List.mem_singleton] at hmem
    subst hmem
    exact isPlain_ofNat (Nat.lt_of_le_of_lt hle (by decide)) h hq hb
  · have hlead : ∀ m < 128, isPlain (UInt8.ofNat (m + 0x80)) = true := fun m hm =>
      isPlain_ofNat (by omega) (by omega) (by omega) (by omega)
    split at hmem
    · simp only [List.mem_cons, List.not_mem_nil, or_false] at hmem
      rcases hmem with rfl | rfl
      · exact hlead (_ + 0x40) (by omega)
      · exact hlead _ (by omega)
    · split at hmem
      · simp only [List.mem_cons, List.not_mem_nil, or_false] at hmem
        rcases hmem with rfl | rfl | rfl
        · exact hlead (_ + 0x60) (by omega)
        · exact hlead _ (by omega)
        · exact hlead _ (by omega)
      · simp only [List.mem_cons, List.not_mem_nil, or_false] at hmem
        rcases hmem with rfl | rfl | rfl | rfl
        · exact hlead (_ + 0x70) (by omega)
        · exact hlead _ (by omega)
        · exact hlead _ (by omega)
        · exact hlead _ (by omega)

/-- A character is printed as its own bytes or as an escape. -/
theorem character_cases (c : Char) :
    (Printer.character c = String.utf8EncodeChar c ∧
      ∀ b ∈ String.utf8EncodeChar c, isPlain b = true) ∨ ∃ escape, EscapeOf c escape := by
  have hletter : ∀ {n : Nat} {letter : UInt8}, c.toNat = n → n ≤ 0x7F →
      plainEscape? letter = some (UInt8.ofNat n) →
      Printer.character (Char.ofNat n) = [0x5C, letter] → ∃ escape, EscapeOf c escape := by
    intro n letter hn hle hl hp
    have hc : Char.ofNat n = c := by rw [← hn, Char.ofNat_toNat]
    exact ⟨[letter], escapeOf_letter (hc ▸ hp) (hn ▸ hl) (hn ▸ hle)⟩
  by_cases hshort : c.toNat ∈ [0x22, 0x5C, 0x08, 0x0C, 0x0A, 0x0D, 0x09]
  · -- Each of these characters has a letter of its own.
    simp only [List.mem_cons, List.not_mem_nil, or_false] at hshort
    rcases hshort with h | h | h | h | h | h | h <;>
      exact .inr (hletter h (by decide) rfl rfl)
  · simp only [List.mem_cons, List.not_mem_nil, or_false, not_or] at hshort
    by_cases hcontrol : c.toNat < 0x20
    · refine .inr ⟨_, escapeOf_control hcontrol ?_⟩
      simp only [Printer.character, hshort, hcontrol, if_false, if_true]
    · have ⟨hquote, hbackslash, _⟩ := hshort
      refine .inl ⟨?_,
        isPlain_of_mem_utf8EncodeChar (Nat.le_of_not_lt hcontrol) hquote hbackslash⟩
      simp only [Printer.character, hshort, hcontrol, if_false]

/-! ## Contents -/

section Contents

variable {escape : Bytes → Except Error (Bytes × Nat)}

theorem contents_drop (used rest : Bytes) :
    contents escape used.length (used ++ rest) = contents escape 0 rest := by
  induction used with
  | nil => rfl
  | cons b used ih => rw [List.length_cons, List.cons_append, contents, ih]

/-- Bytes that stand for themselves. -/
theorem contents_plain {bytes inside after : Bytes} (hb : ∀ b ∈ bytes, isPlain b = true)
    (rest : Bytes) (h : contents escape 0 rest = .ok (inside, after)) :
    contents escape 0 (bytes ++ rest) = .ok (bytes ++ inside, after) := by
  induction bytes with
  | nil => exact h
  | cons b bytes ih =>
    have hplain := hb b List.mem_cons_self
    simp only [isPlain, ne_eq, Bool.and_eq_true, decide_eq_true_eq] at hplain
    obtain ⟨⟨hq, hs⟩, hl⟩ := hplain
    rw [List.cons_append, contents, if_neg hq, if_neg hs, if_neg (UInt8.not_lt.mpr hl),
      ih fun b hmem => hb b (List.mem_cons_of_mem _ hmem)]
    rfl

theorem contents_escape {used head inside after : Bytes} (rest : Bytes)
    (he : escape (used ++ rest) = .ok (head, used.length))
    (h : contents escape 0 rest = .ok (inside, after)) :
    contents escape 0 (0x5C :: (used ++ rest)) = .ok (head ++ inside, after) := by
  rw [contents, if_neg (by decide), if_pos rfl, he]
  simp only [bind, Except.bind]
  rw [contents_drop, h]

end Contents

theorem contents_keptEscape (cs : List Char) (rest : Bytes) :
    contents keptEscape 0 (cs.flatMap Printer.character ++ 0x22 :: rest) =
      .ok (cs.flatMap String.utf8EncodeChar, rest) := by
  induction cs with
  | nil => rfl
  | cons c cs ih =>
    rw [List.flatMap_cons, List.flatMap_cons, List.append_assoc]
    rcases character_cases c with ⟨hp, hplain⟩ | ⟨escape, he⟩
    · rw [hp]
      exact contents_plain hplain _ ih
    · rw [he.printed, List.cons_append]
      exact contents_escape _ (he.kept _) ih

theorem contents_skippedEscape (cs : List Char) (rest : Bytes) :
    ∃ inside, contents skippedEscape 0 (cs.flatMap Printer.character ++ 0x22 :: rest) =
      .ok (inside, rest) := by
  induction cs with
  | nil => exact ⟨[], rfl⟩
  | cons c cs ih =>
    obtain ⟨inside, ih⟩ := ih
    rw [List.flatMap_cons, List.append_assoc]
    rcases character_cases c with ⟨hp, hplain⟩ | ⟨escape, he⟩
    · rw [hp]
      exact ⟨_, contents_plain hplain _ ih⟩
    · rw [he.printed, List.cons_append]
      exact ⟨_, contents_escape _ (he.skipped _) ih⟩

/-! ## Strings -/

theorem string_append (text : String) (rest : Bytes) :
    Printer.string text ++ rest = 0x22 :: (text.toList.flatMap Printer.character ++ 0x22 :: rest) := by
  rw [Printer.string, List.cons_append, List.append_assoc, List.singleton_append]

/-- A printed string is kept as its text. -/
theorem string_print (text : String) (rest : Bytes) :
    string (text.toList.flatMap Printer.character ++ 0x22 :: rest) = .ok (text, rest) := by
  have h := Utf8.decode?_encode text
  rw [Utf8.encode] at h
  rw [string, contents_keptEscape]
  simp only [bind, Except.bind, h]

theorem skipString_print (text : String) (rest : Bytes) :
    skipString (text.toList.flatMap Printer.character ++ 0x22 :: rest) = .ok rest := by
  obtain ⟨inside, h⟩ := contents_skippedEscape text.toList rest
  rw [skipString, h]
  rfl

end DebugAdapter.Json.Reader
