import DebugAdapter.Text.Utf8

/-! # Texts survive UTF-8

The machine that decodes one byte after the other reads the bytes of a character as exactly that
character, whatever follows them. -/

namespace DebugAdapter.Utf8

/-! ## First bytes -/

theorem first_one {n : Nat} (h : n ≤ 0x7F) :
    first (UInt8.ofNat n) = ([some (Char.ofNat n)], .start) := by
  have hn : (UInt8.ofNat n).toNat = n := by
    simp only [UInt8.toNat_ofNat']
    omega
  have hb : UInt8.ofNat n < 0x80 := by
    rw [UInt8.lt_iff_toNat_lt, hn]
    exact Nat.lt_succ_of_le h
  simp only [first, hb, if_true, hn]

theorem first_two : ∀ m < 32, 2 ≤ m →
    first (UInt8.ofNat (m + 0xC0)) = ([], .inside 1 0x80 0xBF m) := by
  decide

/-- Not every byte may follow the first of three: short forms and surrogates are left out. -/
theorem first_three : ∀ m < 16,
    first (UInt8.ofNat (m + 0xE0)) =
      ([], .inside 2 (if m = 0 then 0xA0 else 0x80) (if m = 13 then 0x9F else 0xBF) m) := by
  decide

/-- Not every byte may follow the first of four: short forms and numbers beyond the last
character are left out. -/
theorem first_four : ∀ m < 5,
    first (UInt8.ofNat (m + 0xF0)) =
      ([], .inside 3 (if m = 0 then 0x90 else 0x80) (if m = 4 then 0x8F else 0xBF) m) := by
  decide

theorem piecesFrom_start (b : UInt8) (rest : Bytes) :
    piecesFrom .start (b :: rest) = (first b).1 ++ piecesFrom (first b).2 rest := rfl

/-! ## Later bytes -/

/-- A byte within the bounds adds six bits. -/
theorem piecesFrom_inside {low high : UInt8} {code m : Nat} (owed : Nat) (rest : Bytes)
    (hm : m < 64) (hl : low.toNat ≤ m + 0x80) (hh : m + 0x80 ≤ high.toNat) :
    piecesFrom (.inside owed low high code) (UInt8.ofNat (m + 0x80) :: rest) =
      if owed ≤ 1 then some (Char.ofNat (code * 64 + m)) :: piecesFrom .start rest
      else piecesFrom (.inside (owed - 1) 0x80 0xBF (code * 64 + m)) rest := by
  have hn : (UInt8.ofNat (m + 0x80)).toNat = m + 0x80 := by
    simp only [UInt8.toNat_ofNat']
    omega
  have hb : low ≤ UInt8.ofNat (m + 0x80) ∧ UInt8.ofNat (m + 0x80) ≤ high := by
    simp only [UInt8.le_iff_toNat_le, hn]
    exact ⟨hl, hh⟩
  simp only [piecesFrom, step, if_pos hb, hn, Nat.add_sub_cancel]
  split <;> rfl

/-- The last byte of a character. -/
theorem piecesFrom_last {low high : UInt8} {code m : Nat} (rest : Bytes) (hm : m < 64)
    (hl : low.toNat ≤ m + 0x80) (hh : m + 0x80 ≤ high.toNat) :
    piecesFrom (.inside 1 low high code) (UInt8.ofNat (m + 0x80) :: rest) =
      some (Char.ofNat (code * 64 + m)) :: piecesFrom .start rest := by
  rw [piecesFrom_inside 1 rest hm hl hh, if_pos (Nat.le_refl 1)]

/-- A byte after which more are owed. -/
theorem piecesFrom_more {low high : UInt8} {code m owed : Nat} (rest : Bytes) (hm : m < 64)
    (hl : low.toNat ≤ m + 0x80) (hh : m + 0x80 ≤ high.toNat) :
    piecesFrom (.inside (owed + 2) low high code) (UInt8.ofNat (m + 0x80) :: rest) =
      piecesFrom (.inside (owed + 1) 0x80 0xBF (code * 64 + m)) rest := by
  rw [piecesFrom_inside (owed + 2) rest hm hl hh, if_neg (by omega)]
  rfl

/-! ## Characters of each length -/

variable {n : Nat} (rest : Bytes)

theorem piecesFrom_two (h : 0x7F < n) (h' : n ≤ 0x7FF) :
    piecesFrom .start (UInt8.ofNat (n / 64 % 0x20 + 0xC0) :: UInt8.ofNat (n % 64 + 0x80) :: rest) =
      some (Char.ofNat n) :: piecesFrom .start rest := by
  have hm : n / 64 < 32 := by omega
  have hf := first_two (n / 64) hm (by omega)
  rw [piecesFrom_start, Nat.mod_eq_of_lt hm, hf, List.nil_append,
    piecesFrom_last rest (by omega) (by simp) (by simp; omega)]
  rw [show n / 64 * 64 + n % 64 = n by omega]

theorem piecesFrom_three (h : 0x7FF < n) (h' : n ≤ 0xFFFF) (hs : n < 0xD800 ∨ 0xDFFF < n) :
    piecesFrom .start (UInt8.ofNat (n / 4096 % 0x10 + 0xE0) ::
        UInt8.ofNat (n / 64 % 64 + 0x80) :: UInt8.ofNat (n % 64 + 0x80) :: rest) =
      some (Char.ofNat n) :: piecesFrom .start rest := by
  have hm : n / 4096 < 16 := by omega
  have hf := first_three (n / 4096) hm
  rw [piecesFrom_start, Nat.mod_eq_of_lt hm, hf, List.nil_append,
    piecesFrom_more _ (by omega) (by split <;> simp; omega) (by split <;> simp <;> omega),
    piecesFrom_last rest (by omega) (by simp) (by simp; omega)]
  rw [show (n / 4096 * 64 + n / 64 % 64) * 64 + n % 64 = n by omega]

theorem piecesFrom_four (h : 0xFFFF < n) (h' : n < 0x110000) :
    piecesFrom .start (UInt8.ofNat (n / 262144 % 0x08 + 0xF0) ::
        UInt8.ofNat (n / 4096 % 64 + 0x80) :: UInt8.ofNat (n / 64 % 64 + 0x80) ::
        UInt8.ofNat (n % 64 + 0x80) :: rest) =
      some (Char.ofNat n) :: piecesFrom .start rest := by
  have hm : n / 262144 < 5 := by omega
  have hf := first_four (n / 262144) hm
  rw [piecesFrom_start, Nat.mod_eq_of_lt (show n / 262144 < 8 by omega), hf, List.nil_append,
    piecesFrom_more _ (by omega) (by split <;> simp; omega) (by split <;> simp <;> omega),
    piecesFrom_more _ (by omega) (by simp) (by simp; omega),
    piecesFrom_last rest (by omega) (by simp) (by simp; omega)]
  rw [show ((n / 262144 * 64 + n / 4096 % 64) * 64 + n / 64 % 64) * 64 + n % 64 = n by omega]

/-! ## Characters and texts -/

theorem piecesFrom_utf8EncodeChar (c : Char) :
    piecesFrom .start (String.utf8EncodeChar c ++ rest) = some c :: piecesFrom .start rest := by
  have hv : c.val.toNat < 0xD800 ∨ 0xDFFF < c.val.toNat ∧ c.val.toNat < 0x110000 := c.valid
  have hc : Char.ofNat c.val.toNat = c := Char.ofNat_toNat c
  rw [String.utf8EncodeChar]
  generalize c.val.toNat = n at hv hc
  subst hc
  change piecesFrom .start ((if n ≤ 0x7F then _ else _) ++ rest) = _
  split
  · rename_i h
    rw [List.singleton_append, piecesFrom_start, first_one h]
    rfl
  · split
    · exact piecesFrom_two rest (by omega) (by omega)
    · split
      · exact piecesFrom_three rest (by omega) (by omega) (by omega)
      · exact piecesFrom_four rest (by omega) (by omega)

theorem piecesFrom_flatMap (cs : List Char) :
    piecesFrom .start (cs.flatMap String.utf8EncodeChar) = cs.map some := by
  induction cs with
  | nil => rfl
  | cons c cs ih => rw [List.flatMap_cons, piecesFrom_utf8EncodeChar, ih, List.map_cons]

/-- The bytes of a text are decoded to that text. -/
theorem decode?_encode (text : String) : decode? (encode text) = some text := by
  have h : (text.toList.map some).mapM id = some text.toList := by
    induction text.toList with
    | nil => rfl
    | cons c cs ih => simp [List.mapM_cons, ih]
  rw [decode?, pieces, encode, piecesFrom_flatMap, h, Option.map_some, String.ofList_toList]

/-- Nothing of a text is replaced. -/
theorem decodeLossy_encode (text : String) : decodeLossy (encode text) = text := by
  have h : (text.toList.map some).map (·.getD '\uFFFD') = text.toList := by
    rw [List.map_map]
    exact List.map_id _
  rw [decodeLossy, pieces, encode, piecesFrom_flatMap, h, String.ofList_toList]

/-- The bytes of a text are those by which it is represented. On texts that are written out these are
computed without decoding them first. -/
theorem encode_eq_toByteArray (text : String) : encode text = text.toByteArray.data.toList := by
  rw [encode, ← String.utf8Encode_toList, List.utf8Encode, List.data_toByteArray]

/-! ## Ascii -/

theorem utf8EncodeChar_of_lt {c : Char} (h : c.toNat < 0x80) :
    String.utf8EncodeChar c = [c.toUInt8] := by
  rw [String.utf8EncodeChar]
  exact if_pos (Nat.le_of_lt_succ h)

theorem toNat_ofNat_of_lt {n : Nat} (h : n < 0x80) : (Char.ofNat n).toNat = n := by
  have hvalid : n.isValidChar := .inl (Nat.lt_of_lt_of_le h (by decide))
  rw [Char.ofNat, dif_pos hvalid]
  rfl

/-- A byte of Ascii is a character. -/
theorem utf8EncodeChar_ofNat {b : UInt8} (h : b.toNat < 0x80) :
    String.utf8EncodeChar (Char.ofNat b.toNat) = [b] := by
  have hnat : (Char.ofNat b.toNat).val.toNat = b.toNat := toNat_ofNat_of_lt h
  rw [String.utf8EncodeChar]
  simp only [hnat, if_pos (Nat.le_of_lt_succ h), UInt8.ofNat_toNat]

theorem encode_of_lt {text : List Char} (h : ∀ c ∈ text, c.toNat < 0x80) :
    encode (String.ofList text) = text.map Char.toUInt8 := by
  rw [encode, String.toList_ofList]
  induction text with
  | nil => rfl
  | cons c rest ih =>
    rw [List.flatMap_cons, utf8EncodeChar_of_lt (h c List.mem_cons_self),
      ih fun d hd => h d (List.mem_cons_of_mem _ hd)]
    rfl

end DebugAdapter.Utf8
