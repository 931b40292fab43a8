import DebugAdapter.Proofs.Json.Containers
import DebugAdapter.Proofs.Json.Shape

/-! # Values read back

A printed value without doubles is read as that value if it is not nested beyond the limit, and
it is skipped however deep it is nested. -/

namespace DebugAdapter.Json

/-! ## First bytes -/

namespace Reader

/-- Whether a byte may begin a numeral. -/
def beginsNumeral (b : UInt8) : Bool := b == 0x2D || Decimal.isDigit b

theorem encodeInt_eq_cons (n : Int) :
    ∃ b more, Decimal.encodeInt n = b :: more ∧ beginsNumeral b = true := by
  by_cases hn : n < 0
  · exact ⟨0x2D, _, by rw [Decimal.encodeInt, if_pos hn], rfl⟩
  · cases he : Decimal.encode n.natAbs with
    | nil => exact absurd he (Decimal.encode_ne_nil _)
    | cons b more =>
      have hb := Decimal.isDigit_of_mem_encode (n := n.natAbs) b (he ▸ List.mem_cons_self)
      exact ⟨b, more, by rw [Decimal.encodeInt, if_neg hn, he], by rw [beginsNumeral, hb, Bool.or_true]⟩

theorem ne_of_beginsNumeral {b x : UInt8} (hb : beginsNumeral b = true)
    (hx : beginsNumeral x = false) : b ≠ x := by
  rintro rfl
  exact absurd (hb.symm.trans hx) (by decide)

theorem opensValue_of_beginsNumeral {b : UInt8} (hb : beginsNumeral b = true) (rest : Bytes) :
    opensValue (b :: rest) = true := by
  have hne : ∀ x, beginsNumeral x = false → (b == x) = false := fun x hx =>
    beq_false_of_ne (ne_of_beginsNumeral hb hx)
  rw [opensValue, hne 0x20 rfl, hne 0x09 rfl, hne 0x0A rfl, hne 0x0D rfl, hne 0x5D rfl,
    hne 0x7D rfl]
  rfl

theorem opensValue_value {v : Value} (h : v.isIntegral = true) :
    opensValue (Printer.value v) = true := by
  cases v with
  | null => rfl
  | bool b => cases b <;> rfl
  | number n =>
    cases n with
    | double x => exact absurd h Bool.false_ne_true
    | integer n =>
      obtain ⟨b, more, he, hb⟩ := encodeInt_eq_cons n.val
      change opensValue (Decimal.encodeInt n.val) = true
      rw [he]
      exact opensValue_of_beginsNumeral hb more
  | string text => rfl
  | array items =>
    rw [Printer.value_array]
    rfl
  | object members =>
    rw [Printer.value_object]
    rfl

/-! ## Scalars -/

/-- A value without inner values. -/
def isScalar : Value → Bool
  | .array _ | .object _ => false
  | _ => true

theorem scalar_number (n : Integer) {rest : Bytes} (h : endsValue rest = true) :
    scalar (Printer.value (.number (.integer n)) ++ rest) =
      .ok (.number (.integer n), rest) := by
  have hscan := Numeral.scan_encodeInt h .truncated n.val
  obtain ⟨b, more, he, hb⟩ := encodeInt_eq_cons n.val
  have hstart : b = 0x2D ∨ Decimal.isDigit b = true := by simpa [beginsNumeral] using hb
  change scalar (Decimal.encodeInt n.val ++ rest) = _
  rw [he, List.cons_append] at hscan ⊢
  simp only [scalar]
  rw [if_neg (ne_of_beginsNumeral hb rfl), if_neg (ne_of_beginsNumeral hb rfl),
    if_neg (ne_of_beginsNumeral hb rfl), if_neg (ne_of_beginsNumeral hb rfl), if_pos hstart, hscan]
  simp only [bind, Except.bind, Numeral.toNumber_ofInt]

theorem scalar_value {v : Value} (hs : isScalar v = true) (hi : v.isIntegral = true)
    {rest : Bytes} (h : endsValue rest = true) :
    scalar (Printer.value v ++ rest) = .ok (v, rest) := by
  cases v with
  | null => rfl
  | bool b => cases b <;> rfl
  | number n =>
    cases n with
    | double x => exact absurd hi Bool.false_ne_true
    | integer n => exact scalar_number n h
  | string text =>
    change scalar (Printer.string text ++ rest) = _
    rw [string_append, scalar, if_neg (by decide), if_neg (by decide), if_neg (by decide),
      if_pos rfl, string_print]
    rfl
  | array items => exact absurd hs Bool.false_ne_true
  | object members => exact absurd hs Bool.false_ne_true

theorem space_value {v : Value} (h : v.isIntegral = true) (rest : Bytes) :
    space (Printer.value v ++ rest) = Printer.value v ++ rest :=
  space_of_opensValue (opensValue_value h) rest

/-- The first byte of a scalar leads to the reader of scalars, whatever the limit. -/
theorem value_of_isScalar {v : Value} (hs : isScalar v = true) (hi : v.isIntegral = true)
    (bound limit : Nat) {rest : Bytes} (h : endsValue rest = true) :
    value bound limit (Printer.value v ++ rest) = .ok (v, rest) := by
  have hscalar := scalar_value hs hi h
  have hopen : ∀ b more, Printer.value v = b :: more → b ≠ 0x5B ∧ b ≠ 0x7B := by
    intro b more he
    refine ⟨?_, ?_⟩ <;> rintro rfl
    · rw [he] at hscalar
      exact absurd hscalar (by simp [scalar, Decimal.isDigit])
    · rw [he] at hscalar
      exact absurd hscalar (by simp [scalar, Decimal.isDigit])
  cases he : Printer.value v with
  | nil =>
    have hv := opensValue_value hi
    rw [he] at hv
    exact absurd hv Bool.false_ne_true
  | cons b more =>
    obtain ⟨harray, hobject⟩ := hopen b more he
    have hspace := space_value hi rest
    rw [he, List.cons_append] at hspace hscalar
    rw [List.cons_append]
    cases limit with
    | zero =>
      rw [value, hspace]
      simp only
      rw [if_neg (by simp [harray, hobject]), hscalar]
    | succ limit =>
      rw [value, hspace]
      simp only
      rw [if_neg harray, if_neg hobject, hscalar]

/-! ## Containers -/

/-- An element of an array, put before those that were read. -/
def element (bound limit : Nat) (items : List Value) (bytes : Bytes) :
    Except Error (List Value × Bytes) := do
  let (v, rest) ← value bound limit bytes
  .ok (v :: items, rest)

/-- A member of an object, put before those that were read. -/
def member (bound limit : Nat) (members : List (String × Value)) (bytes : Bytes) :
    Except Error (List (String × Value) × Bytes) := do
  let (k, rest) ← key string bytes
  let (v, rest) ← value bound limit (← colon rest)
  .ok ((k, v) :: members, rest)

theorem value_array (bound limit : Nat) (rest : Bytes) :
    value bound (limit + 1) (0x5B :: rest) = (do
      let (items, rest) ← container 0x5D (element bound limit) bound [] rest
      .ok (.array items.reverse, rest)) := rfl

theorem value_object (bound limit : Nat) (rest : Bytes) :
    value bound (limit + 1) (0x7B :: rest) = (do
      let (members, rest) ← container 0x7D (member bound limit) bound [] rest
      .ok (.object members.reverse, rest)) := rfl

/-- The key of a printed member and the colon after it. -/
theorem key_member {α : Type} (read : Bytes → Except Error α) (m : String × Value)
    (rest : Bytes) :
    key read (space (Printer.member m ++ rest)) =
      read (m.1.toList.flatMap Printer.character ++ 0x22 :: 0x3A :: (Printer.value m.2 ++ rest)) := by
  rw [Printer.member, List.append_assoc, string_append, List.cons_append]
  rfl

theorem colon_cons (rest : Bytes) : colon (0x3A :: rest) = .ok rest := rfl

/-- What the elements of a printed array have to satisfy is inherited from the array. -/
theorem length_of_mem_array {items : List Value} {bound : Nat}
    (h : (Printer.value (.array items)).length ≤ bound + 1) :
    items.length ≤ bound ∧ ∀ v ∈ items, (Printer.value v).length < bound := by
  rw [Printer.value_array] at h
  simp only [List.length_cons, List.length_append, List.length_nil] at h
  have hcount := Printer.length_le_separated_add_one Printer.value items
  refine ⟨by omega, fun v hv => ?_⟩
  have hv := Printer.length_le_length_separated Printer.value hv
  omega

theorem length_of_mem_object {members : List (String × Value)} {bound : Nat}
    (h : (Printer.value (.object members)).length ≤ bound + 1) :
    members.length ≤ bound ∧ ∀ m ∈ members, (Printer.value m.2).length < bound := by
  rw [Printer.value_object] at h
  simp only [List.length_cons, List.length_append, List.length_nil] at h
  have hcount := Printer.length_le_separated_add_one Printer.member members
  refine ⟨by omega, fun m hm => ?_⟩
  have hm := Printer.length_le_length_separated Printer.member hm
  rw [Printer.member, List.length_append, List.length_cons] at hm
  omega

theorem opensValue_member (m : String × Value) : opensValue (Printer.member m) = true := rfl

/-! ## Values that are kept -/

/-- A printed value without doubles is read as that value. -/
theorem value_print {bound : Nat} {v : Value} (hi : v.isIntegral = true) :
    ∀ {limit rest}, v.depth ≤ limit → (Printer.value v).length ≤ bound + 1 →
      endsValue rest = true → value bound limit (Printer.value v ++ rest) = .ok (v, rest) := by
  induction v using Value.induct with
  | null | bool | number | string =>
    intro limit rest _ _ hrest
    exact value_of_isScalar rfl hi bound limit hrest
  | array items ih =>
    intro limit rest hd hb hrest
    cases limit with
    | zero => exact absurd hd (Nat.not_succ_le_zero _)
    | succ limit =>
      have hdepth := (Value.depthItems_le items).mp (Nat.le_of_succ_le_succ hd)
      have hitems := Value.isIntegral_array.mp hi
      obtain ⟨hcount, hlength⟩ := length_of_mem_array hb
      have hread : ∀ v ∈ items,
          ReadsAs (element bound limit) Printer.value (fun s v => some (v :: s)) v := by
        intro v hv s s' rest hs hrest
        obtain rfl := Option.some.inj hs
        rw [space_value (hitems v hv), element, ih v hv (hitems v hv) (hdepth v hv)
          (Nat.le_succ_of_le (Nat.le_of_lt (hlength v hv))) hrest]
        rfl
      rw [Printer.value_array, List.cons_append, List.append_assoc, List.singleton_append,
        value_array, container_separated (.inl rfl) rest hcount
          (fun v hv => opensValue_value (hitems v hv)) hread (foldlM_cons_eq_reverse items [])]
      simp only [bind, Except.bind, List.append_nil, List.reverse_reverse]
  | object members ih =>
    intro limit rest hd hb hrest
    cases limit with
    | zero => exact absurd hd (Nat.not_succ_le_zero _)
    | succ limit =>
      have hdepth := (Value.depthMembers_le members).mp (Nat.le_of_succ_le_succ hd)
      have hmembers := Value.isIntegral_object.mp hi
      obtain ⟨hcount, hlength⟩ := length_of_mem_object hb
      have hread : ∀ m ∈ members,
          ReadsAs (member bound limit) Printer.member (fun s m => some (m :: s)) m := by
        intro m hm s s' rest hs hrest
        obtain rfl := Option.some.inj hs
        rw [member, key_member, string_print]
        simp only [bind, Except.bind, colon_cons]
        rw [ih m hm (hmembers m hm) (hdepth m hm)
          (Nat.le_succ_of_le (Nat.le_of_lt (hlength m hm))) hrest]
      rw [Printer.value_object, List.cons_append, List.append_assoc, List.singleton_append,
        value_object, container_separated (.inr rfl) rest hcount
          (fun m _ => opensValue_member m) hread (foldlM_cons_eq_reverse members [])]
      simp only [bind, Except.bind, List.append_nil, List.reverse_reverse]

/-! ## Values that are skipped -/

/-- An element or a member that is skipped leaves nothing. -/
def skipElement (bound : Nat) (_ : Unit) (bytes : Bytes) : Except Error (Unit × Bytes) := do
  .ok ((), ← skip bound bytes)

def skipMember (bound : Nat) (_ : Unit) (bytes : Bytes) : Except Error (Unit × Bytes) := do
  let rest ← key skipString bytes
  .ok ((), ← skip bound (← colon rest))

theorem skip_array (bound : Nat) (rest : Bytes) :
    skip (bound + 1) (0x5B :: rest) = (do
      let (_, rest) ← container 0x5D (skipElement bound) bound () rest
      .ok rest) := rfl

theorem skip_object (bound : Nat) (rest : Bytes) :
    skip (bound + 1) (0x7B :: rest) = (do
      let (_, rest) ← container 0x7D (skipMember bound) bound () rest
      .ok rest) := rfl

theorem foldlM_unit {α : Type} (as : List α) :
    as.foldlM (fun (_ : Unit) _ => some ()) () = some () := by
  induction as with
  | nil => rfl
  | cons a as ih => exact ih

/-- A scalar is skipped in the same way as it is kept. -/
theorem skip_of_isScalar {v : Value} (hs : isScalar v = true) (hi : v.isIntegral = true)
    (bound : Nat) {rest : Bytes} (h : endsValue rest = true) :
    skip (bound + 1) (Printer.value v ++ rest) = .ok rest := by
  cases v with
  | null => rfl
  | bool b => cases b <;> rfl
  | number n =>
    cases n with
    | double x => exact absurd hi Bool.false_ne_true
    | integer n =>
      have hscan := Numeral.scan_encodeInt h .malformed n.val
      have hspace : space (Decimal.encodeInt n.val ++ rest) = Decimal.encodeInt n.val ++ rest :=
        space_value hi rest
      obtain ⟨b, more, he, hb⟩ := encodeInt_eq_cons n.val
      have hstart : b = 0x2D ∨ Decimal.isDigit b = true := by simpa [beginsNumeral] using hb
      change skip (bound + 1) (Decimal.encodeInt n.val ++ rest) = _
      rw [he, List.cons_append] at hscan hspace ⊢
      rw [skip, hspace]
      simp only
      rw [if_neg (ne_of_beginsNumeral hb rfl), if_neg (ne_of_beginsNumeral hb rfl),
        if_neg (ne_of_beginsNumeral hb rfl), if_neg (ne_of_beginsNumeral hb rfl), if_pos hstart,
        hscan]
      rfl
  | string text =>
    change skip (bound + 1) (Printer.string text ++ rest) = _
    rw [string_append]
    exact skipString_print text rest
  | array items => exact absurd hs Bool.false_ne_true
  | object members => exact absurd hs Bool.false_ne_true

/-- A printed value without doubles is skipped as a whole. -/
theorem skip_print {v : Value} (hi : v.isIntegral = true) :
    ∀ {bound rest}, (Printer.value v).length ≤ bound → endsValue rest = true →
      skip (bound + 1) (Printer.value v ++ rest) = .ok rest := by
  induction v using Value.induct with
  | null | bool | number | string =>
    intro bound rest _ hrest
    exact skip_of_isScalar rfl hi bound hrest
  | array items ih =>
    intro bound rest hb hrest
    have hitems := Value.isIntegral_array.mp hi
    obtain ⟨hcount, hlength⟩ := length_of_mem_array (Nat.le_succ_of_le hb)
    have hread : ∀ v ∈ items,
        ReadsAs (skipElement bound) Printer.value (fun _ _ => some ()) v := by
      intro v hv s s' rest _ hrest
      obtain ⟨bound, rfl⟩ := Nat.exists_eq_add_one_of_ne_zero (Nat.ne_zero_of_lt (hlength v hv))
      rw [space_value (hitems v hv), skipElement,
        ih v hv (hitems v hv) (Nat.le_of_lt_succ (hlength v hv)) hrest]
      rfl
    rw [Printer.value_array, List.cons_append, List.append_assoc, List.singleton_append,
      skip_array, container_separated (.inl rfl) rest hcount
        (fun v hv => opensValue_value (hitems v hv)) hread (foldlM_unit items)]
    rfl
  | object members ih =>
    intro bound rest hb hrest
    have hmembers := Value.isIntegral_object.mp hi
    obtain ⟨hcount, hlength⟩ := length_of_mem_object (Nat.le_succ_of_le hb)
    have hread : ∀ m ∈ members,
        ReadsAs (skipMember bound) Printer.member (fun _ _ => some ()) m := by
      intro m hm s s' rest _ hrest
      obtain ⟨bound, rfl⟩ := Nat.exists_eq_add_one_of_ne_zero (Nat.ne_zero_of_lt (hlength m hm))
      rw [skipMember, key_member, skipString_print]
      simp only [bind, Except.bind, colon_cons]
      rw [ih m hm (hmembers m hm) (Nat.le_of_lt_succ (hlength m hm)) hrest]
    rw [Printer.value_object, List.cons_append, List.append_assoc, List.singleton_append,
      skip_object, container_separated (.inr rfl) rest hcount
        (fun m _ => opensValue_member m) hread (foldlM_unit members)]
    rfl

end Reader

end DebugAdapter.Json
