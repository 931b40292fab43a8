import DebugAdapter.Proofs.Text.Utf8

/-! # Which bytes are a text, and where they may be cut

Bytes that are not empty begin with a character, or the first of their pieces belongs to none. So
bytes are decoded strictly if and only if they are the bytes of a text, and to no other text. A line
feed leaves the decoder between characters whatever came before, so bytes that are cut after line
feeds are decoded part by part. -/

namespace DebugAdapter

/-- Something is found for each element of a list. -/
theorem mapM_eq_some_iff {α β : Type} {f : α → Option β} {items : List α} {found : List β} :
    items.mapM f = some found ↔ items.map f = found.map some := by
  induction items generalizing found with
  | nil => cases found <;> simp
  | cons item items ih =>
    rw [List.mapM_cons, List.map_cons]
    cases hitem : f item with
    | none => cases found <;> simp
    | some b =>
      cases hitems : items.mapM f with
      | none => cases found <;> simp [← ih, hitems]
      | some bs => cases found <;> simp [← ih, hitems]

namespace Utf8

/-! ## Characters from their bits -/

theorem sextet_div (q : Nat) {r : Nat} (hr : r < 64) : (q * 64 + r) / 64 = q := by omega

theorem sextet_mod (q : Nat) {r : Nat} (hr : r < 64) : (q * 64 + r) % 64 = r := by omega

theorem utf8EncodeChar_two {l m : Nat} (hl : 2 ≤ l) (hl' : l < 32) (hm : m < 64) :
    String.utf8EncodeChar (Char.ofNat (l * 64 + m)) =
      [UInt8.ofNat (l + 0xC0), UInt8.ofNat (m + 0x80)] := by
  have hvalid : (l * 64 + m).isValidChar := .inl (by omega)
  have hnat : (Char.ofNat (l * 64 + m)).val.toNat = l * 64 + m := by
    rw [Char.ofNat, dif_pos hvalid]
    rfl
  have hlead : (l * 64 + m) / 64 % 32 = l := by
    rw [sextet_div l hm, Nat.mod_eq_of_lt hl']
  have hlast : (l * 64 + m) % 64 = m := sextet_mod l hm
  simp only [String.utf8EncodeChar, hnat, if_neg (show ¬ l * 64 + m ≤ 0x7F by omega),
    if_pos (show l * 64 + m ≤ 0x7FF by omega), hlead, hlast]

theorem utf8EncodeChar_three {l m n : Nat} (hl : l < 16) (hm : m < 64) (hn : n < 64)
    (hshort : l = 0 → 32 ≤ m) (hsurrogate : l = 13 → m < 32) :
    String.utf8EncodeChar (Char.ofNat ((l * 64 + m) * 64 + n)) =
      [UInt8.ofNat (l + 0xE0), UInt8.ofNat (m + 0x80), UInt8.ofNat (n + 0x80)] := by
  have hvalid : ((l * 64 + m) * 64 + n).isValidChar := by
    rw [Nat.isValidChar]
    omega
  have hnat : (Char.ofNat ((l * 64 + m) * 64 + n)).val.toNat = (l * 64 + m) * 64 + n := by
    rw [Char.ofNat, dif_pos hvalid]
    rfl
  have hlead : ((l * 64 + m) * 64 + n) / 4096 % 16 = l := by
    rw [show 4096 = 64 * 64 from rfl, ← Nat.div_div_eq_div_mul, sextet_div _ hn, sextet_div _ hm,
      Nat.mod_eq_of_lt hl]
  have hmiddle : ((l * 64 + m) * 64 + n) / 64 % 64 = m := by
    rw [sextet_div _ hn, sextet_mod _ hm]
  have hlast : ((l * 64 + m) * 64 + n) % 64 = n := sextet_mod _ hn
  simp only [String.utf8EncodeChar, hnat,
    if_neg (show ¬ (l * 64 + m) * 64 + n ≤ 0x7F by omega),
    if_neg (show ¬ (l * 64 + m) * 64 + n ≤ 0x7FF by omega),
    if_pos (show (l * 64 + m) * 64 + n ≤ 0xFFFF by omega), hlead, hmiddle, hlast]

theorem utf8EncodeChar_four {k l m n : Nat} (hk : k < 5) (hl : l < 64) (hm : m < 64) (hn : n < 64)
    (hshort : k = 0 → 16 ≤ l) (hlimit : k = 4 → l < 16) :
    String.utf8EncodeChar (Char.ofNat (((k * 64 + l) * 64 + m) * 64 + n)) =
      [UInt8.ofNat (k + 0xF0), UInt8.ofNat (l + 0x80), UInt8.ofNat (m + 0x80),
        UInt8.ofNat (n + 0x80)] := by
  have hvalid : (((k * 64 + l) * 64 + m) * 64 + n).isValidChar := by
    rw [Nat.isValidChar]
    omega
  have hnat : (Char.ofNat (((k * 64 + l) * 64 + m) * 64 + n)).val.toNat =
      ((k * 64 + l) * 64 + m) * 64 + n := by
    rw [Char.ofNat, dif_pos hvalid]
    rfl
  have hlead : (((k * 64 + l) * 64 + m) * 64 + n) / 262144 % 8 = k := by
    rw [show 262144 = 64 * 64 * 64 from rfl, ← Nat.div_div_eq_div_mul, ← Nat.div_div_eq_div_mul,
      sextet_div _ hn, sextet_div _ hm, sextet_div _ hl, Nat.mod_eq_of_lt (by omega)]
  have hsecond : (((k * 64 + l) * 64 + m) * 64 + n) / 4096 % 64 = l := by
    rw [show 4096 = 64 * 64 from rfl, ← Nat.div_div_eq_div_mul, sextet_div _ hn, sextet_div _ hm,
      sextet_mod _ hl]
  have hthird : (((k * 64 + l) * 64 + m) * 64 + n) / 64 % 64 = m := by
    rw [sextet_div _ hn, sextet_mod _ hm]
  have hlast : (((k * 64 + l) * 64 + m) * 64 + n) % 64 = n := sextet_mod _ hn
  simp only [String.utf8EncodeChar, hnat,
    if_neg (show ¬ ((k * 64 + l) * 64 + m) * 64 + n ≤ 0x7F by omega),
    if_neg (show ¬ ((k * 64 + l) * 64 + m) * 64 + n ≤ 0x7FF by omega),
    if_neg (show ¬ ((k * 64 + l) * 64 + m) * 64 + n ≤ 0xFFFF by omega),
    hlead, hsecond, hthird, hlast]

/-! ## The first piece -/

/-- The first piece of some bytes belongs to no character. -/
def Breaks (pieces : List Piece) : Prop := ∃ more, pieces = none :: more

/-- A byte that may start no character. -/
theorem first_of_none {b : UInt8} (h : 0x80 ≤ b ∧ b < 0xC2 ∨ 0xF5 ≤ b) :
    first b = ([none], .start) := by
  rcases h with ⟨hlow, hhigh⟩ | hb
  · rw [first, if_neg (UInt8.not_lt.mpr hlow), if_pos hhigh]
  · have hlt : ∀ c ≤ (0xF5 : UInt8), ¬ b < c := fun c hc =>
      UInt8.not_lt.mpr (UInt8.le_trans hc hb)
    have hne : ∀ c < (0xF5 : UInt8), b ≠ c := fun c hc he =>
      absurd hb (UInt8.not_le.mpr (he ▸ hc))
    rw [first, if_neg (hlt 0x80 (by decide)), if_neg (hlt 0xC2 (by decide)),
      if_neg (hlt 0xE0 (by decide)), if_neg (hne 0xE0 (by decide)), if_neg (hne 0xED (by decide)),
      if_neg (hlt 0xF0 (by decide)), if_neg (hne 0xF0 (by decide)), if_neg (hlt 0xF4 (by decide)),
      if_neg (hne 0xF4 (by decide))]

/-- Inside a character either the next byte adds six bits, or the part so far belongs to none. -/
theorem breaks_or_adds (owed : Nat) {low high : UInt8} (code : Nat) (bytes : Bytes)
    (hlow : 0x80 ≤ low.toNat) (hhigh : high.toNat ≤ 0xBF) :
    Breaks (piecesFrom (.inside owed low high code) bytes) ∨
      ∃ m rest, bytes = UInt8.ofNat (m + 0x80) :: rest ∧ m < 64 ∧
        low.toNat ≤ m + 0x80 ∧ m + 0x80 ≤ high.toNat := by
  cases bytes with
  | nil => exact .inl ⟨[], rfl⟩
  | cons b rest =>
    by_cases hb : low ≤ b ∧ b ≤ high
    · rw [UInt8.le_iff_toNat_le, UInt8.le_iff_toNat_le] at hb
      refine .inr ⟨b.toNat - 0x80, rest, ?_, by omega, by omega, by omega⟩
      rw [Nat.sub_add_cancel (by omega), UInt8.ofNat_toNat]
    · refine .inl ⟨(first b).1 ++ piecesFrom (first b).2 rest, ?_⟩
      simp only [piecesFrom, step, if_neg hb, List.cons_append]

/-- The bytes begin with a character. -/
def Begins (bytes : Bytes) : Prop := ∃ c rest, bytes = String.utf8EncodeChar c ++ rest

theorem breaks_or_begins_two {l : Nat} (rest : Bytes) (hl : 2 ≤ l) (hl' : l < 32) :
    Breaks (piecesFrom .start (UInt8.ofNat (l + 0xC0) :: rest)) ∨
      Begins (UInt8.ofNat (l + 0xC0) :: rest) := by
  rw [piecesFrom_start, first_two l hl' hl, List.nil_append]
  refine (@breaks_or_adds 1 0x80 0xBF l rest (by decide) (by decide)).imp_right ?_
  rintro ⟨m, tail, rfl, hm, -, -⟩
  exact ⟨_, tail, by rw [utf8EncodeChar_two hl hl' hm]; rfl⟩

theorem breaks_or_begins_three {l : Nat} (rest : Bytes) (hl : l < 16) :
    Breaks (piecesFrom .start (UInt8.ofNat (l + 0xE0) :: rest)) ∨
      Begins (UInt8.ofNat (l + 0xE0) :: rest) := by
  rw [piecesFrom_start, first_three l hl, List.nil_append]
  have hlow : 0x80 ≤ (if l = 0 then 0xA0 else 0x80 : UInt8).toNat := by split <;> decide
  have hhigh : (if l = 13 then 0x9F else 0xBF : UInt8).toNat ≤ 0xBF := by split <;> decide
  rcases breaks_or_adds 2 l rest hlow hhigh with hbreaks | ⟨m, rest, rfl, hm, hm', hm''⟩
  · exact .inl hbreaks
  · rw [piecesFrom_more rest hm hm' hm'']
    refine (@breaks_or_adds 1 0x80 0xBF _ rest (by decide) (by decide)).imp_right ?_
    rintro ⟨n, tail, rfl, hn, -, -⟩
    have hshort : l = 0 → 32 ≤ m := fun h => by simp [h] at hm'; omega
    have hsurrogate : l = 13 → m < 32 := fun h => by simp [h] at hm''; omega
    exact ⟨_, tail, by rw [utf8EncodeChar_three hl hm hn hshort hsurrogate]; rfl⟩

theorem breaks_or_begins_four {k : Nat} (rest : Bytes) (hk : k < 5) :
    Breaks (piecesFrom .start (UInt8.ofNat (k + 0xF0) :: rest)) ∨
      Begins (UInt8.ofNat (k + 0xF0) :: rest) := by
  rw [piecesFrom_start, first_four k hk, List.nil_append]
  have hlow : 0x80 ≤ (if k = 0 then 0x90 else 0x80 : UInt8).toNat := by split <;> decide
  have hhigh : (if k = 4 then 0x8F else 0xBF : UInt8).toNat ≤ 0xBF := by split <;> decide
  rcases breaks_or_adds 3 k rest hlow hhigh with hbreaks | ⟨l, rest, rfl, hl, hl', hl''⟩
  · exact .inl hbreaks
  rw [piecesFrom_more rest hl hl' hl'']
  rcases @breaks_or_adds 2 0x80 0xBF (k * 64 + l) rest (by decide) (by decide) with
    hbreaks | ⟨m, rest, rfl, hm, hm', hm''⟩
  · exact .inl hbreaks
  rw [piecesFrom_more rest hm hm' hm'']
  refine (@breaks_or_adds 1 0x80 0xBF _ rest (by decide) (by decide)).imp_right ?_
  rintro ⟨n, tail, rfl, hn, -, -⟩
  have hshort : k = 0 → 16 ≤ l := fun h => by simp [h] at hl'; omega
  have hlimit : k = 4 → l < 16 := fun h => by simp [h] at hl''; omega
  exact ⟨_, tail, by rw [utf8EncodeChar_four hk hl hm hn hshort hlimit]; rfl⟩

/-- A byte is a number of bits after a mark. -/
theorem eq_ofNat_add {b : UInt8} {mark : Nat} (h : mark ≤ b.toNat) :
    b = UInt8.ofNat (b.toNat - mark + mark) := by
  rw [Nat.sub_add_cancel h, UInt8.ofNat_toNat]

/-- Bytes begin with a character or with a part that belongs to none. -/
theorem breaks_or_begins (b : UInt8) (rest : Bytes) :
    Breaks (piecesFrom .start (b :: rest)) ∨ Begins (b :: rest) := by
  by_cases hone : b.toNat < 0x80
  · exact .inr ⟨_, rest, by rw [utf8EncodeChar_ofNat hone]; rfl⟩
  by_cases hnone : b.toNat < 0xC2 ∨ 0xF5 ≤ b.toNat
  · have hb : 0x80 ≤ b ∧ b < 0xC2 ∨ 0xF5 ≤ b := by
      rw [UInt8.le_iff_toNat_le, UInt8.lt_iff_toNat_lt, UInt8.le_iff_toNat_le]
      exact hnone.imp_left fun hhigh => ⟨Nat.le_of_not_lt hone, hhigh⟩
    refine .inl ⟨piecesFrom .start rest, ?_⟩
    rw [piecesFrom_start, first_of_none hb]
    rfl
  by_cases htwo : b.toNat < 0xE0
  · rw [eq_ofNat_add (show 0xC0 ≤ b.toNat by omega)]
    exact breaks_or_begins_two rest (by omega) (by omega)
  by_cases hthree : b.toNat < 0xF0
  · rw [eq_ofNat_add (show 0xE0 ≤ b.toNat by omega)]
    exact breaks_or_begins_three rest (by omega)
  · rw [eq_ofNat_add (show 0xF0 ≤ b.toNat by omega)]
    exact breaks_or_begins_four rest (by omega)

/-! ## Well-formed bytes -/

/-- Bytes without parts that belong to no character are those of their characters. -/
theorem eq_of_pieces_eq {bytes : Bytes} {cs : List Char} (h : pieces bytes = cs.map some) :
    bytes = cs.flatMap String.utf8EncodeChar := by
  induction cs generalizing bytes with
  | nil =>
    cases bytes with
    | nil => rfl
    | cons b rest =>
      rcases breaks_or_begins b rest with ⟨more, hmore⟩ | ⟨c, tail, hc⟩
      · rw [pieces, hmore] at h
        cases h
      · rw [hc, pieces, piecesFrom_utf8EncodeChar] at h
        cases h
  | cons c cs ih =>
    cases bytes with
    | nil => cases h
    | cons b rest =>
      rcases breaks_or_begins b rest with ⟨more, hmore⟩ | ⟨d, tail, hd⟩
      · rw [pieces, hmore] at h
        cases h
      · rw [hd, pieces, piecesFrom_utf8EncodeChar, List.map_cons, List.cons.injEq] at h
        rw [hd, Option.some.inj h.1, ih h.2, List.flatMap_cons]

/-- Strict decoding takes the bytes of a text and nothing else. -/
theorem decode?_eq_some_iff {bytes : Bytes} {text : String} :
    decode? bytes = some text ↔ encode text = bytes := by
  constructor
  · intro h
    obtain ⟨cs, hcs, rfl⟩ := Option.map_eq_some_iff.mp h
    have hpieces : pieces bytes = cs.map some := by simpa using mapM_eq_some_iff.mp hcs
    rw [encode, String.toList_ofList, ← eq_of_pieces_eq hpieces]
  · rintro rfl
    exact decode?_encode text

/-! ## Cuts after line feeds -/

theorem step_inside (owed : Nat) (low high : UInt8) (code : Nat) (b : UInt8) :
    step (.inside owed low high code) b =
      if low ≤ b ∧ b ≤ high then
        if owed ≤ 1 then ([some (Char.ofNat (code * 64 + (b.toNat - 0x80)))], .start)
        else ([], .inside (owed - 1) 0x80 0xBF (code * 64 + (b.toNat - 0x80)))
      else (none :: (first b).1, (first b).2) := rfl

/-- A byte of Ascii does not continue a character. -/
def State.Ends : State → Prop
  | .start => True
  | .inside _ low _ _ => 0x80 ≤ low

theorem ends_ite {p : Prop} [Decidable p] {x y : List Piece × State} (hx : x.2.Ends)
    (hy : y.2.Ends) : (if p then x else y).2.Ends := by
  by_cases hp : p
  · rwa [if_pos hp]
  · rwa [if_neg hp]

theorem ends_first (b : UInt8) : (first b).2.Ends := by
  have hlow : (0x80 : UInt8) ≤ 0x90 ∧ (0x80 : UInt8) ≤ 0xA0 := by decide
  unfold first
  repeat' apply ends_ite
  all_goals first | trivial | exact UInt8.le_refl _ | exact hlow.1 | exact hlow.2

theorem ends_step (state : State) (b : UInt8) : (step state b).2.Ends := by
  cases state with
  | start => exact ends_first b
  | inside owed low high code =>
    rw [step_inside]
    exact ends_ite (ends_ite trivial (UInt8.le_refl _)) (ends_first b)

theorem piecesFrom_cons (state : State) (b : UInt8) (rest : Bytes) :
    piecesFrom state (b :: rest) = (step state b).1 ++ piecesFrom (step state b).2 rest := by
  cases state <;> rfl

/-- After a line feed the decoder is between characters. -/
theorem step_lineFeed {state : State} (h : state.Ends) : (step state 0x0A).2 = .start := by
  cases state with
  | start => rfl
  | inside owed low high code =>
    have hlow : ¬ low ≤ 0x0A := fun hle => absurd (UInt8.le_trans h hle) (by decide)
    rw [step_inside, if_neg fun hb => hlow hb.1]
    rfl

theorem piecesFrom_lineFeed {state : State} (h : state.Ends) (line rest : Bytes) :
    piecesFrom state (line ++ 0x0A :: rest) =
      piecesFrom state (line ++ [0x0A]) ++ piecesFrom .start rest := by
  induction line generalizing state with
  | nil =>
    simp only [List.nil_append, piecesFrom_cons, step_lineFeed h]
    rw [List.append_assoc]
    rfl
  | cons b line ih =>
    simp only [List.cons_append, piecesFrom_cons, ih (ends_step state b), List.append_assoc]

/-- No character goes over the end of a line, and no part that belongs to none. -/
theorem decodeLossy_lineFeed (line rest : Bytes) :
    decodeLossy (line ++ 0x0A :: rest) = decodeLossy (line ++ [0x0A]) ++ decodeLossy rest := by
  have hends : State.start.Ends := trivial
  rw [decodeLossy, pieces, piecesFrom_lineFeed hends, List.map_append, String.ofList_append,
    decodeLossy, pieces, decodeLossy, pieces]

end Utf8

end DebugAdapter
