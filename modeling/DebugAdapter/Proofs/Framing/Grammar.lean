import DebugAdapter.Framing.Decoder
import DebugAdapter.Proofs.Framing.Header
import DebugAdapter.Proofs.Text.Decoding
import DebugAdapter.Proofs.Text.Trimming
import Mathlib.Data.List.Induction

/-! # Which header blocks give a length

The grammar of header blocks, said without a reader: what the lines of a text are, which of them
give a length and which numerals stand for a number. The reader takes a block for a length if and
only if the grammar does, and for the same one. -/

namespace DebugAdapter.Framing

open Protocol

/-! ## Finding something in a list -/

/-- The last thing found in a list is what is found in the last element with anything to find. -/
theorem getLast?_filterMap_eq_some_iff {α β : Type} {f : α → Option β} {items : List α} {b : β} :
    (items.filterMap f).getLast? = some b ↔ ∃ before last after, items = before ++ last :: after ∧
      f last = some b ∧ ∀ item ∈ after, f item = none := by
  rw [List.getLast?_filterMap, List.findSome?_eq_some_iff]
  constructor
  · rintro ⟨after, last, before, hitems, hlast, hafter⟩
    refine ⟨before.reverse, last, after.reverse, ?_, hlast, by simpa using hafter⟩
    simpa using congrArg List.reverse hitems
  · rintro ⟨before, last, after, rfl, hlast, hafter⟩
    exact ⟨after.reverse, last, before.reverse, by simp, hlast, by simpa using hafter⟩

/-- The last of the things found for all elements is the one found for the last element. -/
theorem getLast?_of_mapM {α β : Type} {f : α → Option β} {items : List α} {found : List β}
    (h : items.mapM f = some found) {b : β} :
    found.getLast? = some b ↔ ∃ item ∈ items.getLast?, f item = some b := by
  have hmap := congrArg List.getLast? (mapM_eq_some_iff.mp h)
  rw [List.getLast?_map, List.getLast?_map] at hmap
  cases hitem : items.getLast? <;> cases hfound : found.getLast? <;> simp_all

theorem exists_mapM_eq_some {α β : Type} {f : α → Option β} {items : List α} :
    (∃ found, items.mapM f = some found) ↔ ∀ item ∈ items, ∃ b, f item = some b := by
  simp only [mapM_eq_some_iff]
  induction items with
  | nil => simp
  | cons item items ih =>
    rw [List.forall_mem_cons, ← ih]
    constructor
    · rintro ⟨found, hfound⟩
      cases found with
      | nil => exact nomatch hfound
      | cons b bs =>
        rw [List.map_cons, List.map_cons, List.cons.injEq] at hfound
        exact ⟨⟨b, hfound.1⟩, bs, hfound.2⟩
    · rintro ⟨⟨b, hb⟩, bs, hbs⟩
      exact ⟨b :: bs, by rw [List.map_cons, List.map_cons, hb, hbs]⟩

/-! ## Lines -/

/-- A text as pieces with a separator between each two, which no piece contains. -/
structure Separated (separator text : List Char) (pieces : List (List Char)) : Prop where
  nonempty : pieces ≠ []
  joined : separator.intercalate pieces = text
  apart : ∀ piece ∈ pieces, ¬ separator <:+: piece

theorem lines_ne_nil (text : List Char) : lines text ≠ [] := by
  fun_induction lines text <;> simp_all

/-- Without a line end at its beginning a text adds its first character to the first line. -/
theorem lines_cons {c : Char} {rest line : List Char} {more : List (List Char)}
    (hc : ¬ ['\r', '\n'] <+: c :: rest) (hrest : lines rest = line :: more) :
    lines (c :: rest) = (c :: line) :: more := by
  rw [lines, hrest]
  rintro tail rfl rfl
  exact hc ⟨tail, rfl⟩

/-- Up to its first line end a text is one line. -/
theorem lines_append_lineEnd {piece : List Char} (h : ¬ ['\r', '\n'] <:+: piece)
    (rest : List Char) : lines (piece ++ '\r' :: '\n' :: rest) = piece :: lines rest := by
  induction piece with
  | nil => rw [List.nil_append, lines]
  | cons c piece ih =>
    rw [List.infix_cons_iff, not_or] at h
    refine lines_cons ?_ (ih h.2)
    -- The line end begins after the piece, so it cannot begin with the last character of it.
    cases piece with
    | nil => simp
    | cons d piece => simpa using h.1

theorem lines_of_not_infix {piece : List Char} (h : ¬ ['\r', '\n'] <:+: piece) :
    lines piece = [piece] := by
  induction piece with
  | nil => rw [lines]
  | cons c piece ih =>
    rw [List.infix_cons_iff, not_or] at h
    exact lines_cons h.1 (ih h.2)

theorem intercalate_lines (text : List Char) : ['\r', '\n'].intercalate (lines text) = text := by
  fun_induction lines text with
  | case1 => rfl
  | case2 rest ih => rw [List.intercalate_cons_of_ne_nil (lines_ne_nil rest), ih]; rfl
  | case3 c rest _ hnone => exact absurd hnone (lines_ne_nil rest)
  | case4 c rest _ line more hrest ih =>
    rw [hrest] at ih
    rw [← ih]
    cases more with
    | nil => rfl
    | cons next more => rw [List.intercalate_cons_cons, List.intercalate_cons_cons]; rfl

theorem lines_apart (text : List Char) : ∀ piece ∈ lines text, ¬ ['\r', '\n'] <:+: piece := by
  fun_induction lines text with
  | case1 => simp
  | case2 rest ih => simpa using ih
  | case3 c rest _ hnone => exact absurd hnone (lines_ne_nil rest)
  | case4 c rest hc line more hrest ih =>
    rw [hrest, List.forall_mem_cons] at ih
    rw [List.forall_mem_cons]
    refine ⟨?_, ih.2⟩
    rw [List.infix_cons_iff, not_or]
    refine ⟨?_, ih.1⟩
    rintro ⟨tail, htail⟩
    simp only [List.cons_append, List.nil_append, List.cons.injEq] at htail
    obtain ⟨rfl, rfl⟩ := htail
    -- The first line of the rest begins as the rest does.
    have hbegin := intercalate_lines rest
    rw [hrest] at hbegin
    cases more with
    | nil => exact hc tail rfl (by rw [← hbegin, List.intercalate_singleton])
    | cons next more =>
      rw [List.intercalate_cons_cons] at hbegin
      exact hc _ rfl hbegin.symm

/-- There is one way to cut a text at its line ends. -/
theorem separated_iff {text : List Char} {pieces : List (List Char)} :
    Separated ['\r', '\n'] text pieces ↔ lines text = pieces := by
  constructor
  · rintro ⟨hne, rfl, hapart⟩
    induction pieces with
    | nil => exact absurd rfl hne
    | cons piece pieces ih =>
      rw [List.forall_mem_cons] at hapart
      by_cases hpieces : pieces = []
      · rw [hpieces, List.intercalate_singleton, lines_of_not_infix hapart.1]
      · rw [List.intercalate_cons_of_ne_nil hpieces, List.append_assoc, List.cons_append,
          List.cons_append, List.nil_append, lines_append_lineEnd hapart.1, ih hpieces hapart.2]
  · rintro rfl
    exact ⟨lines_ne_nil text, intercalate_lines text, lines_apart text⟩

/-! ## Length headers -/

/-- A line that is a length header, with the value it gives. -/
def IsLengthLine (line value : List Char) : Prop :=
  ∃ name rest key, line = name ++ ':' :: rest ∧ ':' ∉ name ∧ Text.Trimmed name key ∧
    key.map Char.toLower = "content-length".toList ∧ Text.Trimmed rest value

theorem field?_eq_some_iff {line name value : List Char} :
    field? line = some (name, value) ↔ line = name ++ ':' :: value ∧ ':' ∉ name := by
  constructor
  · intro h
    rw [field?] at h
    split at h
    · cases h
    · next c value' hdrop =>
      obtain ⟨rfl, rfl⟩ := Prod.mk.inj (Option.some.inj h)
      have hcolon : c = ':' := by
        have hhead := List.head?_dropWhile_not (· ≠ ':') line
        rw [hdrop] at hhead
        simpa using hhead
      refine ⟨?_, ?_⟩
      · have hline := @List.takeWhile_append_dropWhile _ (· ≠ ':') line
        rw [hdrop, hcolon] at hline
        exact hline.symm
      · intro hmem
        have hname := List.all_eq_true.mp List.all_takeWhile ':' hmem
        exact of_decide_eq_true hname rfl
  · rintro ⟨rfl, hname⟩
    exact field?_append hname value

/-- The value of a line that is a length header. -/
def lengthValue? (line : List Char) : Option (List Char) :=
  match field? line with
  | some (name, value) => if isLengthName name then some (Text.trim value) else none
  | none => none

theorem lengthValues_eq (text : List Char) :
    lengthValues text = (lines text).filterMap lengthValue? := rfl

theorem lengthValue?_eq_some_iff {line value : List Char} :
    lengthValue? line = some value ↔ IsLengthLine line value := by
  have hlower : lengthName.map Char.toLower = "content-length".toList := by decide
  constructor
  · intro h
    rw [lengthValue?] at h
    split at h
    · next name rest hfield =>
      obtain ⟨hline, hname⟩ := field?_eq_some_iff.mp hfield
      split at h
      · next hkey =>
        rw [isLengthName, hlower, beq_iff_eq] at hkey
        exact ⟨name, rest, _, hline, hname, Text.trimmed_trim name, hkey,
          Text.trimmed_iff.mpr (Option.some.inj h)⟩
      · exact nomatch h
    · exact nomatch h
  · rintro ⟨name, rest, key, hline, hname, hkey, hlength, hvalue⟩
    have hmatters : isLengthName name = true := by
      rw [isLengthName, hkey.trim_eq, hlength, hlower, beq_self_eq_true]
    simp only [lengthValue?, field?_eq_some_iff.mpr ⟨hline, hname⟩, hmatters, if_true,
      hvalue.trim_eq]

theorem lengthValue?_eq_none_iff {line : List Char} :
    lengthValue? line = none ↔ ∀ value, ¬ IsLengthLine line value := by
  simp only [Option.eq_none_iff_forall_ne_some, ne_eq, lengthValue?_eq_some_iff]

/-! ## Numerals -/

/-- The digits of a number, with any number of zeros in front. -/
def Denotes (value : List Char) (n : Nat) : Prop :=
  ∃ zeros, value = List.replicate zeros '0' ++ Nat.toDigits 10 n

theorem Denotes.ofDigitChars {value : List Char} {n : Nat} (h : Denotes value n) :
    Nat.ofDigitChars 10 value 0 = n := by
  obtain ⟨zeros, rfl⟩ := h
  rw [Nat.ofDigitChars_append, Nat.ofDigitChars_replicate_zero, Nat.mul_zero,
    Nat.ofDigitChars_ten_toDigits]

theorem Denotes.unique {value : List Char} {m n : Nat} (hm : Denotes value m)
    (hn : Denotes value n) : m = n :=
  hm.ofDigitChars.symm.trans hn.ofDigitChars

theorem Denotes.digits {value : List Char} {n : Nat} (h : Denotes value n) :
    value ≠ [] ∧ value.all Char.isDigit = true := by
  obtain ⟨zeros, rfl⟩ := h
  refine ⟨by simp [Nat.toDigits_ne_nil], ?_⟩
  rw [List.all_append, Bool.and_eq_true, List.all_eq_true, List.all_eq_true]
  refine ⟨fun c hc => ?_, fun c hc => Nat.isDigit_of_mem_toDigits (by decide) (by decide) hc⟩
  rw [List.eq_of_mem_replicate hc]
  rfl

/-- A digit is the numeral of a number below ten. -/
theorem exists_digitChar {c : Char} (h : c.isDigit = true) : ∃ d < 10, c = Nat.digitChar d := by
  have hnat : ∀ d < 10, (Nat.digitChar d).toNat = d + 0x30 := by decide
  obtain ⟨hlow, hhigh⟩ : 0x30 ≤ c.toNat ∧ c.toNat ≤ 0x39 := Char.isDigit_iff_toNat.mp h
  refine ⟨c.toNat - 0x30, by omega, ?_⟩
  rw [← Char.toNat_inj, hnat _ (by omega), Nat.sub_add_cancel hlow]

/-- One more digit after a numeral. -/
theorem Denotes.concat {value : List Char} {n d : Nat} (h : Denotes value n) (hd : d < 10) :
    Denotes (value ++ [Nat.digitChar d]) (10 * n + d) := by
  obtain ⟨zeros, rfl⟩ := h
  by_cases hn : n = 0
  · refine ⟨zeros + 1, ?_⟩
    rw [hn, Nat.mul_zero, Nat.zero_add, Nat.toDigits_of_lt_base hd, List.replicate_succ']
    rfl
  · refine ⟨zeros, ?_⟩
    rw [← Nat.toDigits_append_toDigits (by decide) (by omega) hd, Nat.toDigits_of_lt_base hd,
      List.append_assoc]

theorem denotes_of_digits {value : List Char} (hne : value ≠ [])
    (hdigits : value.all Char.isDigit = true) : Denotes value (Nat.ofDigitChars 10 value 0) := by
  induction value using List.reverseRecOn with
  | nil => exact absurd rfl hne
  | append_singleton digits c ih =>
    rw [List.all_append, Bool.and_eq_true] at hdigits
    obtain ⟨d, hd, rfl⟩ := exists_digitChar (List.all_eq_true.mp hdigits.2 c (by simp))
    rw [Nat.ofDigitChars_append, Nat.ofDigitChars_cons_digitChar_of_lt_ten hd,
      Nat.ofDigitChars_nil]
    by_cases hfirst : digits = []
    · refine ⟨0, ?_⟩
      rw [hfirst, Nat.ofDigitChars_nil, Nat.mul_zero, Nat.zero_add, Nat.toDigits_of_lt_base hd]
      rfl
    · exact (ih hfirst hdigits.1).concat hd

theorem length?_eq_some_iff {value : List Char} {n : Nat} :
    length? value = some n ↔ Denotes value n ∧ n ≤ lengthLimit := by
  constructor
  · intro h
    rw [length?] at h
    split at h
    · next hdigits =>
      obtain ⟨hle, hn⟩ := Option.ite_none_right_eq_some.mp h
      rw [← Option.some.inj hn]
      exact ⟨denotes_of_digits hdigits.1 hdigits.2, hle⟩
    · cases h
  · rintro ⟨hdenotes, hle⟩
    rw [length?, if_pos hdenotes.digits, hdenotes.ofDigitChars]
    exact if_pos hle

/-! ## The grammar -/

/-- A header block that gives a length: the bytes of a text in which every length header gives a
number of at most 31 bits, and the last one gives this length. -/
def Announces (block : Bytes) (length : Nat) : Prop :=
  ∃ text pieces, Utf8.encode text = block ∧ Separated ['\r', '\n'] text.toList pieces ∧
    (∀ line ∈ pieces, ∀ value, IsLengthLine line value → ∃ n ≤ 2147483647, Denotes value n) ∧
    ∃ before last after value, pieces = before ++ last :: after ∧ IsLengthLine last value ∧
      Denotes value length ∧ ∀ line ∈ after, ∀ value, ¬ IsLengthLine line value

theorem forall_lengthValue?_iff {pieces : List (List Char)} :
    (∀ value ∈ pieces.filterMap lengthValue?, ∃ n, length? value = some n) ↔
      ∀ line ∈ pieces, ∀ value, IsLengthLine line value →
        ∃ n ≤ 2147483647, Denotes value n := by
  simp only [List.mem_filterMap, lengthValue?_eq_some_iff, length?_eq_some_iff, lengthLimit]
  constructor
  · intro h line hline value hvalue
    obtain ⟨n, hn, hle⟩ := h value ⟨line, hline, hvalue⟩
    exact ⟨n, hle, hn⟩
  · rintro h value ⟨line, hline, hvalue⟩
    obtain ⟨n, hle, hn⟩ := h line hline value hvalue
    exact ⟨n, hn, hle⟩

theorem contentLength?_eq_some_iff {block : Bytes} {length : Nat} :
    contentLength? block = some length ↔ Announces block length := by
  rw [contentLength?, Option.bind_eq_bind, Option.bind_eq_some_iff]
  constructor
  · rintro ⟨text, htext, hlengths⟩
    obtain ⟨lengths, hlengths, hgiven⟩ := Option.bind_eq_some_iff.mp hlengths
    have hall := forall_lengthValue?_iff.mp (exists_mapM_eq_some.mp ⟨lengths, hlengths⟩)
    obtain ⟨value, hvalue, hlength⟩ := (getLast?_of_mapM hlengths).mp hgiven
    obtain ⟨before, last, after, hlines, hlast, hafter⟩ :=
      getLast?_filterMap_eq_some_iff.mp hvalue
    refine ⟨text, lines text.toList, Utf8.decode?_eq_some_iff.mp htext, separated_iff.mpr rfl,
      hall, before, last, after, value, hlines, lengthValue?_eq_some_iff.mp hlast,
      (length?_eq_some_iff.mp hlength).1, ?_⟩
    intro line hline
    exact lengthValue?_eq_none_iff.mp (hafter line hline)
  · rintro ⟨text, pieces, htext, hpieces, hall, before, last, after, value, hlines, hlast,
      hlength, hafter⟩
    obtain rfl := separated_iff.mp hpieces
    obtain ⟨lengths, hlengths⟩ := exists_mapM_eq_some.mpr (forall_lengthValue?_iff.mpr hall)
    have hvalue : (lengthValues text.toList).getLast? = some value := by
      rw [lengthValues_eq]
      exact getLast?_filterMap_eq_some_iff.mpr ⟨before, last, after, hlines,
        lengthValue?_eq_some_iff.mpr hlast,
        fun line hline => lengthValue?_eq_none_iff.mpr (hafter line hline)⟩
    obtain ⟨n, hle, hn⟩ := hall last (by simp [hlines]) value hlast
    have hlimit : length ≤ lengthLimit := hlength.unique hn ▸ hle
    refine ⟨text, Utf8.decode?_eq_some_iff.mpr htext, ?_⟩
    refine Option.bind_eq_some_iff.mpr ⟨lengths, hlengths, ?_⟩
    exact (getLast?_of_mapM hlengths).mpr
      ⟨value, hvalue, length?_eq_some_iff.mpr ⟨hlength, hlimit⟩⟩

example : contentLength? (Utf8.encode "Content-Length: 5\r\ncontent-length: +5") = none := by decide

/-- A header block that was read gives its length to the decoder if the grammar finds one in it,
and is refused as invalid if not. -/
theorem readHeader_announces :
    (∀ block length, contentLength? block = some length ↔ Announces block length) ∧
      ∀ (d : Decoder) block source, readBlock headerLimit [] d.source = (.ok block, source) →
        (∀ length, d.readHeader = (.ok length, { d with source }) ↔ Announces block length) ∧
          (d.readHeader = (.error .invalidContentLength, { d with source }) ↔
            ∀ length, ¬ Announces block length) := by
  refine ⟨fun _ _ => contentLength?_eq_some_iff, ?_⟩
  intro d block source hblock
  simp only [← contentLength?_eq_some_iff]
  cases hlength : contentLength? block <;> simp [Decoder.readHeader, hblock, hlength]

/-- A header block with another header, a name in other case with blanks around it and a numeral
with zeros in front. -/
def lenient : Decoder where
  source := {
    feed := {
      rest := Utf8.encode "Trace: a:b\r\n CONTENT-length\t: \u2003007 \r\n\r\n"
      pace := fun position => position % 3 } }

theorem readHeader_announces_lenient :
    ∃ block source, readBlock headerLimit [] lenient.source = (.ok block, source) ∧
      Announces block 7 ∧ lenient.readHeader = (.ok 7, { lenient with source }) := by
  have hread : (readBlock headerLimit [] lenient.source).1.toOption =
      some (Utf8.encode "Trace: a:b\r\n CONTENT-length\t: \u2003007 ") := by decide +kernel
  have hlength : contentLength? (Utf8.encode "Trace: a:b\r\n CONTENT-length\t: \u2003007 ") =
      some 7 := by decide +kernel
  cases hblock : readBlock headerLimit [] lenient.source with
  | mk result source =>
    rw [hblock] at hread
    cases result with
    | error e => exact nomatch hread
    | ok block =>
      obtain rfl := Option.some.inj hread
      have hannounces := (readHeader_announces.1 _ _).mp hlength
      exact ⟨_, source, rfl, hannounces,
        ((readHeader_announces.2 lenient _ source hblock).1 7).mpr hannounces⟩

end DebugAdapter.Framing
