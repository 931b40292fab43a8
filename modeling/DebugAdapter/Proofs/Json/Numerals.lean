import DebugAdapter.Json.Printer
import DebugAdapter.Json.Reader
import DebugAdapter.Proofs.Text.Decimal

/-! # Integers read back

A printed integer is scanned as a numeral without a fraction and without an exponent, up to the
byte that ends it, and that numeral stands for the integer. -/

namespace DebugAdapter.Json

/-- Whether some bytes end the value before them: there are none, or a comma or the end of a
container comes first. -/
def endsValue : Bytes → Bool
  | [] => true
  | b :: _ => b == 0x2C || b == 0x5D || b == 0x7D

/-- What ends a value is the end of the text or one of three bytes. -/
theorem cases_of_endsValue {rest : Bytes} (h : endsValue rest = true) :
    rest = [] ∨ ∃ b more, rest = b :: more ∧ (b = 0x2C ∨ b = 0x5D ∨ b = 0x7D) := by
  cases rest with
  | nil => exact .inl rfl
  | cons b more =>
    simp only [endsValue, Bool.or_eq_true, beq_iff_eq, or_assoc] at h
    exact .inr ⟨b, more, rfl, h⟩

namespace Numeral

/-! ## What follows a value -/

section Ends

variable {rest : Bytes} (h : endsValue rest = true)

include h

theorem takeWhile_of_endsValue : rest.takeWhile Decimal.isDigit = [] := by
  obtain rfl | ⟨b, more, rfl, rfl | rfl | rfl⟩ := cases_of_endsValue h <;> rfl

theorem dropWhile_of_endsValue : rest.dropWhile Decimal.isDigit = rest := by
  obtain rfl | ⟨b, more, rfl, rfl | rfl | rfl⟩ := cases_of_endsValue h <;> rfl

theorem fractionDigits_of_endsValue (atEnd : Error) :
    fractionDigits atEnd rest = .ok (none, rest) := by
  obtain rfl | ⟨b, more, rfl, rfl | rfl | rfl⟩ := cases_of_endsValue h <;> rfl

theorem exponentDigits_of_endsValue (atEnd : Error) :
    exponentDigits atEnd rest = .ok (none, rest) := by
  obtain rfl | ⟨b, more, rfl, rfl | rfl | rfl⟩ := cases_of_endsValue h <;> rfl

/-! ## Scanning -/

theorem digits_encode (atEnd : Error) (n : Nat) :
    digits atEnd (Decimal.encode n ++ rest) = .ok (Decimal.encode n, rest) := by
  have hall : ∀ b ∈ Decimal.encode n, Decimal.isDigit b = true := Decimal.isDigit_of_mem_encode
  have htake : (Decimal.encode n ++ rest).takeWhile Decimal.isDigit = Decimal.encode n := by
    rw [List.takeWhile_append_of_pos hall, takeWhile_of_endsValue h, List.append_nil]
  have hdrop : (Decimal.encode n ++ rest).dropWhile Decimal.isDigit = rest := by
    rw [List.dropWhile_append_of_pos hall, dropWhile_of_endsValue h]
  cases he : Decimal.encode n with
  | nil => exact absurd he (Decimal.encode_ne_nil n)
  | cons b more =>
    have hb : Decimal.isDigit b = true := hall b (he ▸ List.mem_cons_self)
    rw [he] at htake hdrop
    rw [List.cons_append] at htake hdrop ⊢
    simp only [digits, hb, if_true, htake, hdrop]

theorem wholeDigits_encode (atEnd : Error) (n : Nat) :
    wholeDigits atEnd (Decimal.encode n ++ rest) = .ok (Decimal.encode n, rest) := by
  rw [wholeDigits, digits_encode h]
  simp only [bind, Except.bind]
  rcases Nat.eq_zero_or_pos n with rfl | hn
  · rfl
  · obtain ⟨b, more, he, hb⟩ := Decimal.encode_eq_cons_of_pos hn
    rw [he]
    split
    · rename_i heq
      exact absurd (List.cons.inj heq).1 hb
    · rfl

/-- The numeral of an integer. -/
def ofInt (n : Int) : Numeral := ⟨n < 0, Decimal.encode n.natAbs, none, none⟩

theorem scan_encodeInt (atEnd : Error) (n : Int) :
    scan atEnd (Decimal.encodeInt n ++ rest) = .ok (ofInt n, rest) := by
  have hwhole := wholeDigits_encode h atEnd n.natAbs
  have hfraction := fractionDigits_of_endsValue h atEnd
  have hexponent := exponentDigits_of_endsValue h atEnd
  by_cases hn : n < 0
  · rw [Decimal.encodeInt, if_pos hn, ofInt, decide_eq_true hn, List.cons_append, scan]
    simp only [bind, Except.bind, hwhole, hfraction, hexponent]
  · have hsign : ∀ more, Decimal.encode n.natAbs ++ rest ≠ 0x2D :: more := by
      intro more heq
      cases he : Decimal.encode n.natAbs with
      | nil => exact Decimal.encode_ne_nil _ he
      | cons b digits =>
        rw [he, List.cons_append] at heq
        have hd := Decimal.isDigit_of_mem_encode (n := n.natAbs) b (he ▸ List.mem_cons_self)
        rw [(List.cons.inj heq).1] at hd
        exact absurd hd (by decide)
    rw [Decimal.encodeInt, if_neg hn, ofInt, decide_eq_false hn, scan]
    · simp only [bind, Except.bind, hwhole, hfraction, hexponent]
    · exact hsign

end Ends

/-! ## Evaluation -/

/-- A numeral of digits alone stands for the integer that its digits and its sign give. -/
theorem toNumber_of_value {negative : Bool} {whole : Bytes} {m : Integer}
    (hm : (if negative then -(Decimal.value whole : Int) else Decimal.value whole) = m.val)
    (h0 : negative = true → Decimal.value whole ≠ 0) :
    toNumber ⟨negative, whole, none, none⟩ = .ok (.integer m) := by
  obtain ⟨m, lower, upper⟩ := m
  subst hm
  have h : ¬ (negative = true ∧ (Decimal.value whole : Int) = 0) := by
    rintro ⟨hn, hz⟩
    exact h0 hn (Int.ofNat_eq_zero.mp hz)
  rw [toNumber, if_neg (by simpa using h), dif_pos ⟨lower, upper⟩]

theorem toNumber_ofInt (n : Integer) : (ofInt n.val).toNumber = .ok (.integer n) := by
  refine toNumber_of_value ?_ ?_
  · simp only [Decimal.value_encode, decide_eq_true_eq]
    split <;> omega
  · simp only [Decimal.value_encode, decide_eq_true_eq]
    omega

end Numeral

end DebugAdapter.Json
