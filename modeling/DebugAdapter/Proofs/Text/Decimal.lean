import DebugAdapter.Number.Power
import DebugAdapter.Text.Decimal

/-! # Decimal digits read back

The digits of a number stand for that number, and only zero is written with a zero in front. -/

namespace DebugAdapter.Decimal

/-! ## The digits -/

theorem encode_of_lt {n : Nat} (h : n < 10) : encode n = [UInt8.ofNat (n + 0x30)] := by
  have hd : ∀ n < 10, (Nat.digitChar n).toUInt8 = UInt8.ofNat (n + 0x30) := by decide
  rw [encode, Nat.toDigits_of_lt_base h, List.map_singleton, hd n h]

theorem encode_of_ge {n : Nat} (h : 10 ≤ n) :
    encode n = encode (n / 10) ++ [UInt8.ofNat (n % 10 + 0x30)] := by
  have hlt : n % 10 < 10 := Nat.mod_lt n (by decide)
  rw [← encode_of_lt hlt]
  simp only [encode]
  rw [Nat.toDigits_of_base_le (by decide) h, Nat.toDigits_of_lt_base hlt, List.map_append]

theorem encode_ne_nil (n : Nat) : encode n ≠ [] := by
  simp only [encode, ne_eq, List.map_eq_nil_iff]
  exact Nat.toDigits_ne_nil

theorem length_encode_le {n k : Nat} (hk : 0 < k) (h : n < 10 ^ k) : (encode n).length ≤ k := by
  rw [encode, List.length_map]
  exact (Nat.length_toDigits_le_iff (by decide) hk).mpr h

theorem isDigit_ofNat : ∀ d < 10, isDigit (UInt8.ofNat (d + 0x30)) = true := by decide

theorem digit_ofNat : ∀ d < 10, digit (UInt8.ofNat (d + 0x30)) = d := by decide

/-- A number is written with digits only. -/
theorem isDigit_of_mem_encode {n : Nat} : ∀ b ∈ encode n, isDigit b = true := by
  induction n using Nat.strongRecOn with
  | ind n ih =>
    intro b hb
    by_cases h : n < 10
    · rw [encode_of_lt h, List.mem_singleton] at hb
      rw [hb]
      exact isDigit_ofNat n h
    · rw [encode_of_ge (Nat.le_of_not_lt h), List.mem_append, List.mem_singleton] at hb
      rcases hb with hb | rfl
      · exact ih (n / 10) (by omega) b hb
      · exact isDigit_ofNat (n % 10) (Nat.mod_lt n (by decide))

/-- A number other than zero has no zero in front. -/
theorem encode_eq_cons_of_pos {n : Nat} (hn : 0 < n) :
    ∃ b rest, encode n = b :: rest ∧ b ≠ 0x30 := by
  induction n using Nat.strongRecOn with
  | ind n ih =>
    by_cases h : n < 10
    · have hd : ∀ d < 10, 0 < d → UInt8.ofNat (d + 0x30) ≠ 0x30 := by decide
      exact ⟨_, [], encode_of_lt h, hd n h hn⟩
    · obtain ⟨b, rest, he, hb⟩ := ih (n / 10) (by omega) (by omega)
      refine ⟨b, rest ++ [UInt8.ofNat (n % 10 + 0x30)], ?_, hb⟩
      rw [encode_of_ge (Nat.le_of_not_lt h), he, List.cons_append]

/-! ## Reading back -/

theorem value_append (digits : Bytes) (b : UInt8) :
    value (digits ++ [b]) = 10 * value digits + digit b := by
  simp only [value, List.foldl_append, List.foldl_cons, List.foldl_nil]

theorem value_encode (n : Nat) : value (encode n) = n := by
  induction n using Nat.strongRecOn with
  | ind n ih =>
    by_cases h : n < 10
    · rw [encode_of_lt h]
      simp only [value, List.foldl_cons, List.foldl_nil, digit_ofNat n h]
      omega
    · rw [encode_of_ge (Nat.le_of_not_lt h), value_append, ih (n / 10) (by omega),
        digit_ofNat (n % 10) (Nat.mod_lt n (by decide))]
      omega

/-- The digits of a number end where something else follows. -/
theorem eq_of_encode_append {j k : Nat} {a b : UInt8} {first second : Bytes}
    (ha : isDigit a = false) (hb : isDigit b = false)
    (h : encode j ++ a :: first = encode k ++ b :: second) : j = k ∧ first = second := by
  have htake : ∀ (n : Nat) {c : UInt8} (rest : Bytes), isDigit c = false →
      (encode n ++ c :: rest).takeWhile isDigit = encode n := by
    intro n c rest hc
    rw [List.takeWhile_append_of_pos isDigit_of_mem_encode]
    simp [hc]
  have hdigits : encode j = encode k := by
    rw [← htake j first ha, h, htake k second hb]
  have hjk : j = k := by rw [← value_encode j, hdigits, value_encode k]
  subst hjk
  exact ⟨rfl, (List.cons.inj (List.append_cancel_left h)).2⟩

end DebugAdapter.Decimal
