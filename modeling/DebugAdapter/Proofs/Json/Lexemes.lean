import DebugAdapter.Proofs.Json.Grammar

/-! # Numbers and strings of the grammar

A grammatical number is scanned up to its end, whatever ends it. A grammatical string is skipped
up to its closing quote; a reader that keeps it may refuse it, but what it gives depends on the
string alone. A string that spells a text is kept as that text. -/

namespace DebugAdapter.Json

open Grammar

theorem toOption_bind {α β : Type} (x : Except Error α) (f : α → Except Error β) :
    (x >>= f).toOption = x.toOption.bind fun a => (f a).toOption := by
  cases x <;> rfl

theorem toOption_ok {α : Type} (a : α) : (.ok a : Except Error α).toOption = some a := rfl

theorem eq_ok_of_toOption {α : Type} {x : Except Error α} {a : α} (h : x.toOption = some a) :
    x = .ok a := by
  cases x with
  | error e => exact absurd h (by simp [Except.toOption])
  | ok b => rw [Option.some.inj h]

/-- Whether some bytes end the value before them, with or without blanks. -/
def Ends (rest : Bytes) : Prop := endsValue (Reader.space rest) = true

theorem ends_blank {blank rest : Bytes} (hb : IsBlank blank) (h : endsValue rest = true) :
    Ends (blank ++ rest) := by
  rw [Ends, space_blank hb, Reader.space_of_endsValue h]
  exact h

/-! ## Numbers -/

namespace Numeral

/-- Whether some bytes end the digits before them and everything else of a numeral. -/
def endsNumeral (rest : Bytes) : Bool :=
  rest.head?.all fun b => !Decimal.isDigit b && b != 0x2E && b != 0x65 && b != 0x45

theorem endsNumeral_of_ends {rest : Bytes} (h : Ends rest) : endsNumeral rest = true := by
  cases rest with
  | nil => rfl
  | cons b more =>
    by_cases hb : isBlank b = true
    · simp only [isBlank, Bool.or_eq_true, beq_iff_eq] at hb
      obtain ((rfl | rfl) | rfl) | rfl := hb <;> rfl
    · rw [Ends, space_eq_dropWhile, List.dropWhile_cons_of_neg hb] at h
      simp only [endsValue, Bool.or_eq_true, beq_iff_eq] at h
      obtain (rfl | rfl) | rfl := h <;> rfl

theorem all_of_endsNumeral {rest : Bytes} (h : endsNumeral rest = true) :
    (rest.head?.all fun b => !Decimal.isDigit b) = true := by
  cases rest with
  | nil => rfl
  | cons b more =>
    simp only [endsNumeral, List.head?_cons, Option.all_some, Bool.and_eq_true] at h
    exact h.1.1.1

theorem digits_append {atEnd : Error} {ds rest : Bytes} (hd : IsDigits ds)
    (hr : (rest.head?.all fun b => !Decimal.isDigit b) = true) :
    digits atEnd (ds ++ rest) = .ok (ds, rest) := by
  obtain ⟨hne, hall⟩ := hd
  have htake : rest.takeWhile Decimal.isDigit = [] ∧ rest.dropWhile Decimal.isDigit = rest := by
    cases rest with
    | nil => exact ⟨rfl, rfl⟩
    | cons b more =>
      have hb : Decimal.isDigit b = false := by simpa using hr
      constructor <;> simp [hb]
  cases ds with
  | nil => exact absurd rfl hne
  | cons b ds =>
    rw [List.cons_append, digits, if_pos (hall b List.mem_cons_self), ← List.cons_append,
      List.takeWhile_append_of_pos hall, List.dropWhile_append_of_pos hall, htake.1, htake.2,
      List.append_nil]

theorem wholeDigits_append (atEnd : Error) {whole rest : Bytes} (hw : IsWhole whole)
    (hr : (rest.head?.all fun b => !Decimal.isDigit b) = true) :
    wholeDigits atEnd (whole ++ rest) = .ok (whole, rest) := by
  obtain rfl | ⟨hd, hzero⟩ := hw
  · rw [wholeDigits, digits_append ⟨by simp, List.forall_mem_singleton.mpr rfl⟩ hr]
    rfl
  · rw [wholeDigits, digits_append hd hr]
    simp only [bind, Except.bind]
    split
    · exact absurd rfl hzero
    · rfl

theorem fractionDigits_append {fraction : Bytes} (hf : IsFraction fraction) :
    ∃ o, ∀ atEnd rest, (rest.head?.all fun b => !Decimal.isDigit b && b != 0x2E) = true →
      fractionDigits atEnd (fraction ++ rest) = .ok (o, rest) := by
  obtain rfl | ⟨ds, hd, rfl⟩ := hf
  · refine ⟨none, fun atEnd rest hr => ?_⟩
    cases rest with
    | nil => rfl
    | cons b more =>
      have hb : b ≠ 0x2E := by
        rintro rfl
        simp at hr
      rw [List.nil_append, fractionDigits]
      intro more heq
      exact hb (List.cons.inj heq).1
  · refine ⟨some ds, fun atEnd rest hr => ?_⟩
    have hdigits : (rest.head?.all fun b => !Decimal.isDigit b) = true := by
      cases rest with
      | nil => rfl
      | cons b more => simp_all
    rw [List.cons_append, fractionDigits, digits_append hd hdigits]
    rfl

/-- A sign of an exponent is passed over, and a digit is not taken for one. -/
theorem exponentDigits_append {exponent : Bytes} (he : IsExponent exponent) :
    ∃ o, ∀ atEnd rest, endsNumeral rest = true →
      exponentDigits atEnd (exponent ++ rest) = .ok (o, rest) := by
  obtain rfl | ⟨mark, sign, ds, hmark, hsign, hd, rfl⟩ := he
  · refine ⟨none, fun atEnd rest hr => ?_⟩
    cases rest with
    | nil => rfl
    | cons b more =>
      have hb : ¬ (b = 0x65 ∨ b = 0x45) := by
        rintro (rfl | rfl) <;> simp [endsNumeral] at hr
      exact if_neg hb
  · have hdigits : ∀ atEnd rest, endsNumeral rest = true →
        digits atEnd (ds ++ rest) = .ok (ds, rest) :=
      fun atEnd rest hr => digits_append hd (all_of_endsNumeral hr)
    refine ⟨some (sign == [0x2D], ds), fun atEnd rest hr => ?_⟩
    rw [List.cons_append, List.append_assoc]
    unfold exponentDigits
    dsimp only
    rw [if_pos hmark]
    obtain rfl | rfl | rfl := hsign
    · obtain ⟨b, more, rfl⟩ := List.exists_cons_of_ne_nil hd.1
      have hb := hd.2 b List.mem_cons_self
      have hread := hdigits atEnd rest hr
      rw [List.nil_append]
      rw [List.cons_append] at hread ⊢
      split
      · rename_i hplus
        exact absurd hb (by rw [(List.cons.inj hplus).1]; decide)
      · rename_i hminus
        exact absurd hb (by rw [(List.cons.inj hminus).1]; decide)
      · rw [hread]
        rfl
    · simp only [List.singleton_append, hdigits atEnd rest hr, bind, Except.bind]
      rfl
    · simp only [List.singleton_append, hdigits atEnd rest hr, bind, Except.bind]
      rfl

/-- A numeral is scanned up to its end, whatever ends it. -/
theorem scan_append {bytes : Bytes} (h : IsNumber bytes) :
    ∃ numeral, ∀ atEnd rest, Ends rest → scan atEnd (bytes ++ rest) = .ok (numeral, rest) := by
  obtain ⟨sign, whole, fraction, exponent, hsign, hw, hf, he, rfl⟩ := h
  obtain ⟨f, hf'⟩ := fractionDigits_append hf
  obtain ⟨e, he'⟩ := exponentDigits_append he
  refine ⟨⟨sign == [0x2D], whole, f, e⟩, fun atEnd rest hrest => ?_⟩
  have hr := endsNumeral_of_ends hrest
  have hafterFraction : ((exponent ++ rest).head?.all fun b =>
      !Decimal.isDigit b && b != 0x2E) = true := by
    obtain rfl | ⟨mark, _, _, hmark, _, _, rfl⟩ := he
    · cases rest with
      | nil => rfl
      | cons b more => simp_all [endsNumeral]
    · obtain rfl | rfl := hmark <;> rfl
  have hafterWhole : ((fraction ++ (exponent ++ rest)).head?.all fun b =>
      !Decimal.isDigit b) = true := by
    obtain rfl | ⟨_, _, rfl⟩ := hf
    · cases hcase : exponent ++ rest with
      | nil => rfl
      | cons b more => simp_all
    · rfl
  have hwhole := wholeDigits_append atEnd hw hafterWhole
  simp only [List.append_assoc]
  obtain rfl | rfl := hsign
  · have hdigit : ∃ b more, whole = b :: more ∧ Decimal.isDigit b = true := by
      obtain rfl | ⟨hd, -⟩ := hw
      · exact ⟨_, _, rfl, rfl⟩
      · obtain ⟨b, more, rfl⟩ := List.exists_cons_of_ne_nil hd.1
        exact ⟨b, more, rfl, hd.2 b List.mem_cons_self⟩
    obtain ⟨b, more, rfl, hb⟩ := hdigit
    rw [List.nil_append, scan]
    · simp only [hwhole, hf' _ _ hafterFraction, he' _ _ hr, bind, Except.bind]
      rfl
    · intro more heq
      exact absurd hb (by rw [(List.cons.inj heq).1]; decide)
  · rw [List.singleton_append, scan]
    simp only [hwhole, hf' _ _ hafterFraction, he' _ _ hr, bind, Except.bind]
    rfl

end Numeral

namespace Reader

/-! ## Strings -/

theorem unit_append {digits : Bytes} (h : digits.length = 4) (rest : Bytes) :
    unit (digits ++ rest) = unit digits := by
  obtain ⟨a, b, c, d, rfl⟩ : ∃ a b c d, digits = [a, b, c, d] := by
    match digits, h with
    | [a, b, c, d], _ => exact ⟨a, b, c, d, rfl⟩
  rfl

theorem unit_of_isUnit {digits : Bytes} (h : IsUnit digits) : ∃ code, unit digits = .ok code := by
  obtain ⟨hlength, hall⟩ := h
  obtain ⟨a, b, c, d, rfl⟩ : ∃ a b c d, digits = [a, b, c, d] := by
    match digits, hlength with
    | [a, b, c, d], _ => exact ⟨a, b, c, d, rfl⟩
  obtain ⟨a', ha⟩ := Option.isSome_iff_exists.mp (hall a (by simp))
  obtain ⟨b', hb⟩ := Option.isSome_iff_exists.mp (hall b (by simp))
  obtain ⟨c', hc⟩ := Option.isSome_iff_exists.mp (hall c (by simp))
  obtain ⟨d', hd⟩ := Option.isSome_iff_exists.mp (hall d (by simp))
  exact ⟨((a' * 16 + b') * 16 + c') * 16 + d', by simp only [unit, ha, hb, hc, hd]⟩

theorem contents_skipped {inside : Bytes} (h : IsContents inside) (rest : Bytes) :
    ∃ out, contents skippedEscape 0 (inside ++ 0x22 :: rest) = .ok (out, rest) := by
  induction h with
  | nil => exact ⟨[], rfl⟩
  | @plain b more hb h ih =>
    obtain ⟨out, ih⟩ := ih
    have hall : ∀ x ∈ [b], isPlain x = true := by simpa using hb
    exact ⟨_, contents_plain hall _ ih⟩
  | @letter b more hb h ih =>
    obtain ⟨out, ih⟩ := ih
    obtain ⟨c, hc⟩ := Option.isSome_iff_exists.mp hb
    have he : skippedEscape ([b] ++ (more ++ 0x22 :: rest)) = .ok ([], [b].length) := by
      simp only [List.singleton_append, skippedEscape, hc, List.length_singleton]
    have hread := contents_escape _ he ih
    exact ⟨_, hread⟩
  | @unit digits more hd h ih =>
    obtain ⟨out, ih⟩ := ih
    obtain ⟨code, hu⟩ := unit_of_isUnit hd
    have he : skippedEscape ((0x75 :: digits) ++ (more ++ 0x22 :: rest)) =
        .ok ([], (0x75 :: digits).length) := by
      rw [List.cons_append, skippedEscape, show plainEscape? 0x75 = none from rfl]
      simp only [unit_append hd.1, hu, bind, Except.bind, List.length_cons, hd.1]
      rfl
    have hread := contents_escape _ he ih
    rw [List.cons_append] at hread
    rw [List.cons_append, List.cons_append, List.append_assoc]
    exact ⟨_, hread⟩

/-- A string is skipped up to its closing quote. -/
theorem skipString_append {inside : Bytes} (h : IsContents inside) (rest : Bytes) :
    skipString (inside ++ 0x22 :: rest) = .ok rest := by
  obtain ⟨out, h⟩ := contents_skipped h rest
  rw [skipString, h]
  rfl

/-- What an escape stands for is put before the rest of the string, if both can be read. -/
theorem toOption_contents_escape {escape : Bytes → Except Error (Bytes × Nat)}
    {used head rest : Bytes} (he : escape (used ++ rest) = .ok (head, used.length)) :
    (contents escape 0 (0x5C :: (used ++ rest))).toOption =
      (contents escape 0 rest).toOption.map fun x => (head ++ x.1, x.2) := by
  cases h : contents escape 0 rest with
  | ok x => rw [contents_escape rest he h]; rfl
  | error e =>
    rw [contents, if_neg (by decide), if_pos rfl, he]
    simp only [bind, Except.bind]
    rw [contents_drop, h]
    rfl

theorem toOption_contents_error {escape : Bytes → Except Error (Bytes × Nat)} {bytes : Bytes}
    {e : Error} (he : escape bytes = .error e) :
    (contents escape 0 (0x5C :: bytes)).toOption = none := by
  rw [contents, if_neg (by decide), if_pos rfl, he]
  rfl

/-- A high unit is followed by a low one, or stands for nothing. -/
theorem keptEscape_unit {digits : Bytes} {code : Nat} (hd : digits.length = 4)
    (hu : unit digits = .ok code) (rest : Bytes) :
    keptEscape (0x75 :: (digits ++ rest)) =
      if 0xDC00 ≤ code ∧ code ≤ 0xDFFF then .error .malformed
      else if 0xD800 ≤ code ∧ code ≤ 0xDBFF then do
        .ok (String.utf8EncodeChar (pairChar code (← lowUnit rest)), 11)
      else .ok (String.utf8EncodeChar (Char.ofNat code), 5) := by
  rw [keptEscape, show plainEscape? 0x75 = none from rfl]
  simp only [unit_append hd, hu, bind, Except.bind, ← hd, List.drop_left]
  rfl

theorem lowUnit_unit {digits : Bytes} {code : Nat} (hd : digits.length = 4)
    (hu : unit digits = .ok code) (rest : Bytes) :
    lowUnit (0x5C :: 0x75 :: (digits ++ rest)) =
      if 0xDC00 ≤ code ∧ code ≤ 0xDFFF then .ok code else .error .malformed := by
  simp only [lowUnit, unit_append hd, hu, bind, Except.bind]
  rfl

theorem keptEscape_pair {first second : Bytes} {high low : Nat} (hf : first.length = 4)
    (hs : second.length = 4) (hfu : unit first = .ok high) (hsu : unit second = .ok low)
    (hh : isHigh high) (hl : isLow low) (rest : Bytes) :
    keptEscape (0x75 :: (first ++ 0x5C :: 0x75 :: second) ++ rest) =
      .ok (String.utf8EncodeChar (pairChar high low),
        (0x75 :: (first ++ 0x5C :: 0x75 :: second)).length) := by
  have hlow := (lowUnit_unit hs hsu rest).trans (if_pos hl)
  have hnot : ¬ (0xDC00 ≤ high ∧ high ≤ 0xDFFF) := fun h => by
    have := hh.2
    omega
  have hlength : (0x75 :: (first ++ 0x5C :: 0x75 :: second)).length = 11 := by simp [hf, hs]
  rw [hlength, List.cons_append, List.append_assoc, List.cons_append, List.cons_append,
    keptEscape_unit hf hfu, hlow]
  exact (if_neg hnot).trans (if_pos hh)

theorem keptEscape_single {digits : Bytes} {code : Nat} (hd : digits.length = 4)
    (hu : unit digits = .ok code) (hh : ¬ isHigh code) (hl : ¬ isLow code) (rest : Bytes) :
    keptEscape (0x75 :: digits ++ rest) =
      .ok (String.utf8EncodeChar (Char.ofNat code), (0x75 :: digits).length) := by
  rw [List.cons_append, keptEscape_unit hd hu, List.length_cons, hd]
  exact (if_neg hl).trans (if_neg hh)

/-- Only an escape of a low unit completes a pair. -/
theorem cases_of_lowUnit {inside : Bytes} (h : IsContents inside) :
    (∀ rest, lowUnit (inside ++ 0x22 :: rest) = .error .malformed) ∨
      ∃ digits more code, IsUnit digits ∧ IsContents more ∧ unit digits = .ok code ∧
        isLow code ∧ inside = 0x5C :: 0x75 :: (digits ++ more) := by
  cases h with
  | nil => exact .inl fun _ => rfl
  | @plain b more hb h =>
    have hne : b ≠ 0x5C := by
      rintro rfl
      exact absurd hb (by decide)
    exact .inl fun rest => if_pos hne
  | @letter b more hb h =>
    have hne : b ≠ 0x75 := by
      rintro rfl
      exact absurd hb (by decide)
    refine .inl fun rest => ?_
    exact if_pos hne
  | @unit digits more hd h =>
    obtain ⟨code, hu⟩ := unit_of_isUnit hd
    by_cases hlow : isLow code
    · exact .inr ⟨digits, more, code, hd, h, hu, hlow, rfl⟩
    · refine .inl fun rest => ?_
      rw [List.cons_append, List.cons_append, List.append_assoc, lowUnit_unit hd.1 hu]
      exact if_neg hlow

theorem toOption_contents_plain {escape : Bytes → Except Error (Bytes × Nat)} {b : UInt8}
    (hb : isPlain b = true) (rest : Bytes) :
    (contents escape 0 (b :: rest)).toOption =
      (contents escape 0 rest).toOption.map fun x => (b :: x.1, x.2) := by
  simp only [isPlain, ne_eq, Bool.and_eq_true, decide_eq_true_eq] at hb
  obtain ⟨⟨hq, hs⟩, hl⟩ := hb
  rw [contents, if_neg hq, if_neg hs, if_neg (UInt8.not_lt.mpr hl)]
  cases contents escape 0 rest <;> rfl

theorem toOption_contents_pair {first second : Bytes} {high low : Nat} (hf : first.length = 4)
    (hs : second.length = 4) (hfu : unit first = .ok high) (hsu : unit second = .ok low)
    (hh : isHigh high) (hl : isLow low) (rest : Bytes) :
    (contents keptEscape 0 (0x5C :: 0x75 :: (first ++ 0x5C :: 0x75 :: (second ++ rest)))).toOption =
      (contents keptEscape 0 rest).toOption.map fun x =>
        (String.utf8EncodeChar (pairChar high low) ++ x.1, x.2) := by
  have hread := toOption_contents_escape (keptEscape_pair hf hs hfu hsu hh hl rest)
  rw [List.cons_append, List.append_assoc, List.cons_append, List.cons_append] at hread
  exact hread

/-- The contents of a string are read alike whatever comes after the closing quote. -/
theorem contents_kept {inside : Bytes} (h : IsContents inside) :
    ∃ o : Option Bytes, ∀ rest,
      (contents keptEscape 0 (inside ++ 0x22 :: rest)).toOption = o.map (·, rest) := by
  -- A pair of units takes two steps of the grammar at once.
  induction hn : inside.length using Nat.strongRecOn generalizing inside with
  | ind n ih =>
    subst hn
    cases h with
    | nil => exact ⟨some [], fun _ => rfl⟩
    | @plain b more hb h =>
      obtain ⟨o, ho⟩ := ih more.length (by simp) h rfl
      refine ⟨o.map (b :: ·), fun rest => ?_⟩
      rw [List.cons_append, toOption_contents_plain hb, ho]
      cases o <;> rfl
    | @letter b more hb h =>
      obtain ⟨o, ho⟩ := ih more.length (by simp only [List.length_cons]; omega) h rfl
      obtain ⟨c, hc⟩ := Option.isSome_iff_exists.mp hb
      refine ⟨o.map (c :: ·), fun rest => ?_⟩
      have he : keptEscape ([b] ++ (more ++ 0x22 :: rest)) = .ok ([c], [b].length) := by
        simp only [List.singleton_append, keptEscape, hc, List.length_singleton]
      have hread := toOption_contents_escape he
      rw [ho] at hread
      refine hread.trans ?_
      cases o <;> rfl
    | @unit digits more hd h =>
      obtain ⟨code, hu⟩ := unit_of_isUnit hd
      have hassoc : ∀ rest, (0x5C :: 0x75 :: (digits ++ more)) ++ 0x22 :: rest =
          0x5C :: (0x75 :: digits ++ (more ++ 0x22 :: rest)) := fun rest => by simp
      by_cases hlow : isLow code
      · refine ⟨none, fun rest => ?_⟩
        rw [hassoc]
        exact toOption_contents_error ((keptEscape_unit hd.1 hu _).trans (if_pos hlow))
      by_cases hhigh : isHigh code
      · obtain hnone | ⟨second, tail, low, hs, ht, hsu, hsl, rfl⟩ := cases_of_lowUnit h
        · refine ⟨none, fun rest => ?_⟩
          rw [hassoc]
          refine toOption_contents_error (e := .malformed) ?_
          rw [List.cons_append, keptEscape_unit hd.1 hu, hnone]
          exact (if_neg hlow).trans (if_pos hhigh)
        · obtain ⟨o, ho⟩ := ih tail.length (by simp; omega) ht rfl
          refine ⟨o.map (String.utf8EncodeChar (pairChar code low) ++ ·), fun rest => ?_⟩
          rw [hassoc, List.cons_append, List.cons_append, List.cons_append, List.append_assoc,
            toOption_contents_pair hd.1 hs.1 hu hsu hhigh hsl, ho]
          simp only [Option.map_map, Function.comp_def]
      · obtain ⟨o, ho⟩ := ih more.length (by simp; omega) h rfl
        refine ⟨o.map (String.utf8EncodeChar (Char.ofNat code) ++ ·), fun rest => ?_⟩
        rw [hassoc, toOption_contents_escape (keptEscape_single hd.1 hu hhigh hlow _), ho]
        cases o <;> rfl

/-- A string is kept, or refused, whatever comes after the closing quote. -/
theorem string_append_quote {inside : Bytes} (h : IsContents inside) :
    ∃ o : Option String, ∀ rest, (string (inside ++ 0x22 :: rest)).toOption = o.map (·, rest) := by
  obtain ⟨o, ho⟩ := contents_kept h
  refine ⟨o.bind Utf8.decode?, fun rest => ?_⟩
  rw [string, toOption_bind, ho]
  cases o with
  | none => rfl
  | some bytes =>
    simp only [Option.map_some, Option.bind_some]
    cases Utf8.decode? bytes <;> rfl

/-! ## What a string spells -/

theorem le_of_plainEscape? {b c : UInt8} (h : plainEscape? b = some c) : c.toNat ≤ 0x7F := by
  unfold plainEscape? at h
  split at h
  · rename_i hb
    obtain rfl := Option.some.inj h
    obtain rfl | rfl | rfl := hb <;> decide
  · repeat' split at h
    all_goals cases h
    all_goals decide

theorem contents_spells {inside : Bytes} {cs : List Char} (h : Spells inside cs) (rest : Bytes) :
    contents keptEscape 0 (inside ++ 0x22 :: rest) =
      .ok (cs.flatMap String.utf8EncodeChar, rest) := by
  induction h with
  | nil => rfl
  | plain hc hq hb h ih =>
    rw [List.append_assoc, List.flatMap_cons]
    exact contents_plain (isPlain_of_mem_utf8EncodeChar hc hq hb) _ ih
  | @letter b c more cs hb h ih =>
    have hle := le_of_plainEscape? hb
    have hchar : String.utf8EncodeChar (Char.ofNat c.toNat) = [c] :=
      Utf8.utf8EncodeChar_ofNat (Nat.lt_succ_of_le hle)
    have he : keptEscape ([b] ++ (more ++ 0x22 :: rest)) = .ok ([c], [b].length) := by
      simp only [List.singleton_append, keptEscape, hb, List.length_singleton]
    have hread := contents_escape _ he ih
    rw [List.flatMap_cons, hchar]
    exact hread
  | unit hd hu hh hl h ih =>
    have hread := contents_escape _ (keptEscape_single hd hu hh hl _) ih
    simpa only [List.cons_append, List.append_assoc, List.flatMap_cons] using hread
  | pair hf hs hfu hsu hh hl h ih =>
    have hread := contents_escape _ (keptEscape_pair hf hs hfu hsu hh hl _) ih
    simpa only [List.cons_append, List.append_assoc, List.flatMap_cons] using hread

/-- A string that spells a text is read as that text. -/
theorem string_spells {inside : Bytes} {cs : List Char} (h : Spells inside cs) (rest : Bytes) :
    string (inside ++ 0x22 :: rest) = .ok (String.ofList cs, rest) := by
  have hdecode := Utf8.decode?_encode (String.ofList cs)
  rw [Utf8.encode, String.toList_ofList] at hdecode
  rw [string, contents_spells h]
  simp only [bind, Except.bind, hdecode]

end Reader

end DebugAdapter.Json
