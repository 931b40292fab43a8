import DebugAdapter.Proofs.Json.Lexemes

/-! # What readers make of a value

A value is skipped whatever it looks like, and exactly as far as it goes. A reader that keeps it
may refuse it, but what it gives depends on the value alone, not on what comes after it. -/

namespace DebugAdapter.Json

open Grammar

namespace Reader

/-- On a text, whatever ends it, a reader gives one result or refuses it. -/
def Reads {α : Type} (read : Bytes → Except Error (α × Bytes)) (text : Bytes) (o : Option α) :
    Prop :=
  ∀ rest, Ends rest → (read (text ++ rest)).toOption = o.map (·, rest)

section Reads

variable {α β : Type} {read : Bytes → Except Error (α × Bytes)} {text : Bytes} {o : Option α}

theorem Reads.map (h : Reads read text o) (f : α → β) :
    Reads (fun bytes => do
      let (a, rest) ← read bytes
      .ok (f a, rest)) text (o.map f) := by
  intro rest hrest
  rw [toOption_bind, h rest hrest]
  cases o <;> rfl

/-- What a reader makes of a text that nothing follows. -/
def alone (read : Bytes → Except Error (α × Bytes)) (text : Bytes) : Option α :=
  (read text).toOption.map (·.1)

theorem alone_eq {rest : Bytes} (h : (read (text ++ [])).toOption = o.map (·, rest)) :
    alone read text = o := by
  rw [List.append_nil] at h
  rw [alone, h]
  cases o <;> rfl

theorem cases_of_toOption {x : Except Error (α × Bytes)} {rest : Bytes}
    (h : x.toOption = o.map (·, rest)) :
    (∃ e, x = .error e) ∧ o = none ∨ ∃ a, x = .ok (a, rest) ∧ o = some a := by
  cases x with
  | error e =>
    cases o with
    | none => exact .inl ⟨⟨e, rfl⟩, rfl⟩
    | some a => exact absurd h (by simp [Except.toOption])
  | ok x =>
    cases o with
    | none => exact absurd h (by simp [Except.toOption])
    | some a => exact .inr ⟨a, by rw [Option.some.inj h], rfl⟩

end Reads

/-! ## Containers -/

section Containers

variable {α σ : Type} {close : UInt8} {item : σ → Bytes → Except Error (σ × Bytes)}
  {text : α → Bytes}

theorem space_padded {p : Padded α} (hb : p.IsBlank) (ho : opensValue (text p.inner) = true)
    (rest : Bytes) : space (p.bytes text ++ rest) = text p.inner ++ (p.after ++ rest) := by
  rw [Padded.bytes, List.append_assoc, space_blank hb.before, List.append_assoc,
    space_of_opensValue ho]

/-- If every element is read as `step` says, all of them are, and the first one that is refused
ends the container. -/
theorem elements_padded (step : σ → α → Option σ) (hclose : close = 0x5D ∨ close = 0x7D) (rest : Bytes)
    {p : Padded α} {ps : List (Padded α)} {s : σ} {bound : Nat} (hbound : ps.length < bound)
    (hblank : ∀ x ∈ p :: ps, x.IsBlank)
    (hopens : ∀ x ∈ p :: ps, opensValue (text x.inner) = true)
    (hitem : ∀ x ∈ p :: ps, ∀ s, Reads (item s) (text x.inner) (step s x.inner)) :
    (elements close item bound s
      (Printer.separated (Padded.bytes text) (p :: ps) ++ close :: rest)).toOption =
        ((p :: ps).foldlM (fun s x => step s x.inner) s).map (·, rest) := by
  induction ps generalizing p s bound with
  | nil =>
    obtain ⟨bound, rfl⟩ := Nat.exists_eq_add_one_of_ne_zero (Nat.ne_of_gt hbound)
    have hp := hblank p List.mem_cons_self
    have hend : endsValue (close :: rest) = true := by rcases hclose with rfl | rfl <;> rfl
    have hread := hitem p List.mem_cons_self s _ (ends_blank hp.after hend)
    rw [Printer.separated, List.flatMap_nil, List.append_nil, elements,
      space_padded hp (hopens p List.mem_cons_self), List.foldlM_cons]
    obtain ⟨⟨e, he⟩, hstep⟩ | ⟨s', he, hstep⟩ := cases_of_toOption hread
    · rw [he, hstep]
      rfl
    · rw [he, hstep]
      simp only [bind, Except.bind]
      rw [space_blank hp.after, space_of_endsValue hend]
      simp only
      rw [if_neg (by rcases hclose with rfl | rfl <;> decide), if_pos trivial]
      rfl
  | cons q ps ih =>
    obtain ⟨bound, rfl⟩ := Nat.exists_eq_add_one_of_ne_zero (Nat.ne_of_gt (Nat.zero_lt_of_lt hbound))
    have hp := hblank p List.mem_cons_self
    have hcomma : endsValue
        (0x2C :: (Printer.separated (Padded.bytes text) (q :: ps) ++ close :: rest)) = true := rfl
    have hread := hitem p List.mem_cons_self s _ (ends_blank hp.after hcomma)
    rw [Printer.separated, List.flatMap_cons, List.append_assoc, List.cons_append,
      List.cons_append, ← Printer.separated, elements,
      space_padded hp (hopens p List.mem_cons_self), List.foldlM_cons]
    obtain ⟨⟨e, he⟩, hstep⟩ | ⟨s', he, hstep⟩ := cases_of_toOption hread
    · rw [he, hstep]
      rfl
    · have hrest := ih (s := s') (Nat.lt_of_succ_lt_succ hbound)
        (fun x hx => hblank x (List.mem_cons_of_mem _ hx))
        (fun x hx => hopens x (List.mem_cons_of_mem _ hx))
        (fun x hx => hitem x (List.mem_cons_of_mem _ hx))
      rw [he, hstep]
      simp only [bind, Except.bind]
      rw [space_blank hp.after, space_of_endsValue rfl]
      simp only
      rw [if_pos trivial]
      exact hrest

theorem container_padded (step : σ → α → Option σ) (hclose : close = 0x5D ∨ close = 0x7D) (rest : Bytes)
    {ps : List (Padded α)} {s : σ} {bound : Nat} (hbound : ps.length ≤ bound)
    (hblank : ∀ x ∈ ps, x.IsBlank) (hopens : ∀ x ∈ ps, opensValue (text x.inner) = true)
    (hitem : ∀ x ∈ ps, ∀ s, Reads (item s) (text x.inner) (step s x.inner)) :
    (container close item bound s
      (Printer.separated (Padded.bytes text) ps ++ close :: rest)).toOption =
        (ps.foldlM (fun s x => step s x.inner) s).map (·, rest) := by
  cases ps with
  | nil =>
    have hend : endsValue (close :: rest) = true := by rcases hclose with rfl | rfl <;> rfl
    rw [Printer.separated, List.nil_append, container, space_of_endsValue hend]
    simp only
    rw [if_pos trivial]
    rfl
  | cons p ps =>
    have hp := hopens p List.mem_cons_self
    have hspace := space_padded (hblank p List.mem_cons_self) hp
      (ps.flatMap (fun a => 0x2C :: a.bytes text) ++ close :: rest)
    rw [← List.append_assoc] at hspace
    obtain ⟨b, more, htext⟩ : ∃ b more, text p.inner = b :: more := by
      cases htext : text p.inner with
      | nil =>
        rw [htext] at hp
        exact absurd hp Bool.false_ne_true
      | cons b more => exact ⟨b, more, rfl⟩
    have hb : b ≠ close := by
      rw [htext, opensValue, Bool.and_eq_true] at hp
      rintro rfl
      rcases hclose with rfl | rfl <;> exact absurd hp.2 Bool.false_ne_true
    have hread := elements_padded step hclose rest (s := s) hbound hblank hopens hitem
    rw [Printer.separated] at hread ⊢
    rw [container, hspace, htext, List.cons_append]
    simp only
    rw [if_neg hb]
    exact hread

theorem container_blank {blank : Bytes} (hb : IsBlank blank)
    (hclose : close = 0x5D ∨ close = 0x7D) (bound : Nat) (s : σ) (rest : Bytes) :
    container close item bound s (blank ++ close :: rest) = .ok (s, rest) := by
  have hend : endsValue (close :: rest) = true := by rcases hclose with rfl | rfl <;> rfl
  rw [container, space_blank hb, space_of_endsValue hend]
  exact if_pos rfl

end Containers

/-! ## First bytes -/

theorem beginsNumeral_of_isNumber {bytes : Bytes} (h : IsNumber bytes) :
    ∃ b more, bytes = b :: more ∧ beginsNumeral b = true := by
  obtain ⟨sign, whole, _, _, hsign, hw, _, _, rfl⟩ := h
  obtain rfl | rfl := hsign
  · obtain rfl | ⟨hd, -⟩ := hw
    · exact ⟨_, _, rfl, rfl⟩
    · obtain ⟨b, more, rfl⟩ := List.exists_cons_of_ne_nil hd.1
      exact ⟨b, _, rfl, by rw [beginsNumeral, hd.2 b List.mem_cons_self, Bool.or_true]⟩
  · exact ⟨_, _, rfl, rfl⟩

theorem opensValue_of_isValue {text : Bytes} (h : IsValue text) : opensValue text = true := by
  cases h with
  | number h =>
    obtain ⟨b, more, rfl, hb⟩ := beginsNumeral_of_isNumber h
    exact opensValue_of_beginsNumeral hb more
  | null | true | false | string | emptyArray | array | emptyObject | object => rfl

theorem opensValue_bytes (m : Member) : opensValue m.bytes = true := rfl

/-- What the elements of an array have to satisfy is inherited from the array. -/
theorem length_of_mem_items {items : List (Padded Bytes)} {bound : Nat}
    (h : (0x5B :: (Printer.separated (Padded.bytes id) items ++ [0x5D])).length ≤ bound + 1) :
    items.length ≤ bound ∧ ∀ p ∈ items, p.inner.length ≤ bound := by
  simp only [List.length_cons, List.length_append, List.length_nil] at h
  have hcount := Printer.length_le_separated_add_one (Padded.bytes id) items
  refine ⟨by omega, fun p hp => ?_⟩
  have hlength := Printer.length_le_length_separated (Padded.bytes id) hp
  have hinner : p.inner.length ≤ (p.bytes id).length := p.length_inner_le id
  omega

theorem length_of_mem_members {members : List (Padded Member)} {bound : Nat}
    (h : (0x7B :: (Printer.separated (Padded.bytes Member.bytes) members ++ [0x7D])).length ≤
      bound + 1) :
    members.length ≤ bound ∧ ∀ p ∈ members, p.inner.value.length ≤ bound := by
  simp only [List.length_cons, List.length_append, List.length_nil] at h
  have hcount := Printer.length_le_separated_add_one (Padded.bytes Member.bytes) members
  refine ⟨by omega, fun p hp => ?_⟩
  have hlength := Printer.length_le_length_separated (Padded.bytes Member.bytes) hp
  have hinner := p.length_inner_le Member.bytes
  have hvalue := p.inner.length_value_le
  omega

/-- The colon of a member and the blanks around it. -/
theorem colon_blank {blank : Bytes} (hb : IsBlank blank) (rest : Bytes) :
    colon (blank ++ 0x3A :: rest) = .ok rest := by
  rw [colon, space_blank hb]
  rfl

theorem value_blank {blank : Bytes} (hb : IsBlank blank) (bound limit : Nat) (rest : Bytes) :
    value bound limit (blank ++ rest) = value bound limit rest := by
  cases limit <;> rw [value, value, space_blank hb]

theorem skip_blank {blank : Bytes} (hb : IsBlank blank) (bound : Nat) (rest : Bytes) :
    skip bound (blank ++ rest) = skip bound rest := by
  cases bound with
  | zero => rfl
  | succ bound => rw [skip, skip, space_blank hb]

/-! ## Values that are skipped -/

theorem skipMember_bytes {m : Member} (hk : m.IsKeyed) {bound : Nat} {rest : Bytes}
    (hskip : skip bound (m.value ++ rest) = .ok rest) :
    skipMember bound () (m.bytes ++ rest) = .ok ((), rest) := by
  have hkey : key skipString (m.bytes ++ rest) =
      skipString (m.key ++ 0x22 :: (m.beforeColon ++ 0x3A :: (m.afterColon ++ m.value) ++ rest)) := by
    rw [Member.bytes, List.cons_append, List.append_assoc]
    rfl
  rw [skipMember, hkey, skipString_append hk.key]
  simp only [bind, Except.bind]
  rw [List.append_assoc, List.cons_append, colon_blank hk.beforeColon]
  simp only
  rw [List.append_assoc, skip_blank hk.afterColon, hskip]

/-- The text is skipped as a whole, whatever ends it. -/
def Skips (text : Bytes) : Prop :=
  ∀ bound rest, text.length ≤ bound → Ends rest → skip bound (text ++ rest) = .ok rest

theorem Skips.of_cons {b : UInt8} {more : Bytes}
    (h : ∀ bound rest, (b :: more).length ≤ bound + 1 → Ends rest →
      skip (bound + 1) (b :: more ++ rest) = .ok rest) : Skips (b :: more) := by
  intro bound rest hb hrest
  obtain ⟨bound, rfl⟩ := Nat.exists_eq_add_one_of_ne_zero (Nat.ne_zero_of_lt hb)
  exact h bound rest hb hrest

theorem skips_number {bytes : Bytes} (h : IsNumber bytes) : Skips bytes := by
  obtain ⟨numeral, hscan⟩ := Numeral.scan_append h
  have hspace := space_of_opensValue (opensValue_of_isValue (.number h))
  obtain ⟨b, more, rfl, hbegin⟩ := beginsNumeral_of_isNumber h
  refine .of_cons fun bound rest _ hrest => ?_
  have hstart : b = 0x2D ∨ Decimal.isDigit b = true := by simpa [beginsNumeral] using hbegin
  have hopen := hspace rest
  have hread := hscan .malformed rest hrest
  rw [List.cons_append] at hopen hread ⊢
  rw [skip, hopen]
  simp only
  rw [if_neg (ne_of_beginsNumeral hbegin rfl), if_neg (ne_of_beginsNumeral hbegin rfl),
    if_neg (ne_of_beginsNumeral hbegin rfl), if_neg (ne_of_beginsNumeral hbegin rfl),
    if_pos hstart, hread]
  rfl

theorem skips_items {items : List (Padded Bytes)} (hblank : ∀ p ∈ items, p.IsBlank)
    (h : ∀ p ∈ items, IsValue p.inner) (hskips : ∀ p ∈ items, Skips p.inner) :
    Skips (0x5B :: (Printer.separated (Padded.bytes id) items ++ [0x5D])) := by
  refine .of_cons fun bound rest hb _ => ?_
  obtain ⟨hcount, hlength⟩ := length_of_mem_items hb
  have hread : ∀ p ∈ items, ∀ s, Reads (skipElement bound s) (id p.inner) (some ()) := by
    intro p hp s rest hrest
    rw [skipElement, id, hskips p hp _ _ (hlength p hp) hrest]
    rfl
  have hcontainer := container_padded (fun _ _ => some ()) (.inl rfl) rest (s := ()) hcount hblank
    (fun p hp => opensValue_of_isValue (h p hp)) hread
  rw [foldlM_unit] at hcontainer
  rw [List.cons_append, List.append_assoc, List.singleton_append, skip_array,
    eq_ok_of_toOption hcontainer]
  rfl

theorem skips_members {members : List (Padded Member)} (hblank : ∀ p ∈ members, p.IsBlank)
    (hkeyed : ∀ p ∈ members, p.inner.IsKeyed) (hskips : ∀ p ∈ members, Skips p.inner.value) :
    Skips (0x7B :: (Printer.separated (Padded.bytes Member.bytes) members ++ [0x7D])) := by
  refine .of_cons fun bound rest hb _ => ?_
  obtain ⟨hcount, hlength⟩ := length_of_mem_members hb
  have hread : ∀ p ∈ members, ∀ s, Reads (skipMember bound s) p.inner.bytes (some ()) := by
    intro p hp s rest hrest
    rw [skipMember_bytes (hkeyed p hp) (hskips p hp _ _ (hlength p hp) hrest)]
    rfl
  have hcontainer := container_padded (fun _ _ => some ()) (.inr rfl) rest (s := ()) hcount hblank
    (fun p _ => opensValue_bytes p.inner) hread
  rw [foldlM_unit] at hcontainer
  rw [List.cons_append, List.append_assoc, List.singleton_append, skip_object,
    eq_ok_of_toOption hcontainer]
  rfl

/-- A value is skipped, whatever it is. -/
theorem skips_value {text : Bytes} (h : IsValue text) : Skips text := by
  induction h with
  | null | true | false => exact .of_cons fun _ _ _ _ => rfl
  | @string inside h =>
    refine .of_cons fun bound rest _ _ => ?_
    rw [List.cons_append, List.append_assoc]
    exact skipString_append h rest
  | number h => exact skips_number h
  | @emptyArray blank h =>
    refine .of_cons fun bound rest _ _ => ?_
    rw [List.cons_append, List.append_assoc, List.singleton_append, skip_array,
      container_blank h (.inl rfl)]
    rfl
  | array hblank h ih => exact skips_items hblank h ih
  | @emptyObject blank h =>
    refine .of_cons fun bound rest _ _ => ?_
    rw [List.cons_append, List.append_assoc, List.singleton_append, skip_object,
      container_blank h (.inr rfl)]
    rfl
  | object hblank hkeyed _ ih => exact skips_members hblank hkeyed ih

/-! ## Values that are kept -/

/-- A value without inner values is read alike whatever ends it; a container is none. -/
theorem scalar_append {text : Bytes} (h : IsValue text) : ∃ o, Reads scalar text o := by
  cases h with
  | null | true | false => exact ⟨some _, fun _ _ => rfl⟩
  | @string inside h =>
    obtain ⟨o, ho⟩ := string_append_quote h
    refine ⟨o.map .string, fun rest _ => ?_⟩
    have hscalar : scalar (0x22 :: (inside ++ 0x22 :: rest)) =
      string (inside ++ 0x22 :: rest) >>= fun read => .ok (.string read.1, read.2) := rfl
    rw [List.cons_append, List.append_assoc, List.singleton_append, hscalar, toOption_bind, ho]
    cases o <;> rfl
  | number h =>
    obtain ⟨numeral, hscan⟩ := Numeral.scan_append h
    obtain ⟨b, more, rfl, hbegin⟩ := beginsNumeral_of_isNumber h
    have hstart : b = 0x2D ∨ Decimal.isDigit b = true := by simpa [beginsNumeral] using hbegin
    refine ⟨numeral.toNumber.toOption.map .number, fun rest hrest => ?_⟩
    have hread := hscan .truncated rest hrest
    rw [List.cons_append] at hread ⊢
    rw [scalar, if_neg (ne_of_beginsNumeral hbegin rfl), if_neg (ne_of_beginsNumeral hbegin rfl),
      if_neg (ne_of_beginsNumeral hbegin rfl), if_neg (ne_of_beginsNumeral hbegin rfl),
      if_pos hstart, hread]
    simp only [bind, Except.bind]
    cases numeral.toNumber <;> rfl
  | emptyArray | array | emptyObject | object => exact ⟨none, fun _ _ => rfl⟩

theorem value_eq_scalar {b : UInt8} {rest : Bytes} (ho : opensValue [b] = true) (ha : b ≠ 0x5B)
    (hm : b ≠ 0x7B) (bound limit : Nat) :
    value bound limit (b :: rest) = scalar (b :: rest) := by
  have hspace : space (b :: rest) = b :: rest := space_of_opensValue ho rest
  cases limit with
  | zero =>
    rw [value, hspace]
    exact if_neg (by simp [ha, hm])
  | succ limit =>
    rw [value, hspace]
    exact (if_neg ha).trans (if_neg hm)

/-- What is kept of a value, if at most so many containers are nested in it. -/
def kept (limit : Nat) (text : Bytes) : Option Value := alone (value text.length limit) text

/-- The text of a key. -/
def keyText (m : Member) : Option String := alone string (m.key ++ [0x22])

theorem reads_kept {text : Bytes} {limit : Nat}
    (h : ∃ o, ∀ bound, text.length ≤ bound + 1 → Reads (value bound limit) text o) {bound : Nat}
    (hb : text.length ≤ bound + 1) : Reads (value bound limit) text (kept limit text) := by
  obtain ⟨o, ho⟩ := h
  rw [kept, alone_eq (ho _ (Nat.le_succ _) [] rfl)]
  exact ho bound hb

theorem reads_value_of_scalar {b : UInt8} {more : Bytes} (h : IsValue (b :: more))
    (ha : b ≠ 0x5B) (hm : b ≠ 0x7B) {limit bound : Nat} (hb : (b :: more).length ≤ bound + 1) :
    Reads (value bound limit) (b :: more) (kept limit (b :: more)) := by
  obtain ⟨o, ho⟩ := scalar_append h
  have hopens : opensValue (b :: more) = true := opensValue_of_isValue h
  refine reads_kept ⟨o, fun bound _ rest hrest => ?_⟩ hb
  rw [← ho rest hrest, List.cons_append, value_eq_scalar hopens ha hm]

/-- A key is read alike whatever follows it. -/
theorem key_bytes {m : Member} (hk : m.IsKeyed) (rest : Bytes) :
    (key string (m.bytes ++ rest)).toOption = (keyText m).map
      (·, m.beforeColon ++ 0x3A :: (m.afterColon ++ (m.value ++ rest))) := by
  obtain ⟨o, ho⟩ := string_append_quote hk.key
  have hkey : keyText m = o := alone_eq (by rw [List.append_nil]; exact ho [])
  have hstring : key string (m.bytes ++ rest) =
      string (m.key ++ 0x22 :: (m.beforeColon ++ 0x3A :: (m.afterColon ++ (m.value ++ rest)))) := by
    rw [Member.bytes, List.cons_append, List.append_assoc, List.cons_append, List.append_assoc,
      List.cons_append, List.append_assoc]
    rfl
  rw [hstring, ho, hkey]

theorem reads_member {m : Member} (hk : m.IsKeyed) {limit bound : Nat}
    (hv : Reads (value bound limit) m.value (kept limit m.value))
    (members : List (String × Value)) :
    Reads (member bound limit members) m.bytes
      ((keyText m).bind fun k => (kept limit m.value).map fun v => (k, v) :: members) := by
  intro rest hrest
  rw [member, toOption_bind, key_bytes hk]
  cases keyText m with
  | none => rfl
  | some k =>
    simp only [Option.map_some, Option.bind_some]
    rw [toOption_bind, colon_blank hk.beforeColon]
    simp only [toOption_ok, Option.bind_some]
    rw [value_blank hk.afterColon, toOption_bind, hv rest hrest]
    cases kept limit m.value <;> rfl

/-- Whether the text is kept, and what it is then, depends on the text alone. -/
def Keeps (text : Bytes) : Prop :=
  ∀ limit bound, text.length ≤ bound + 1 → Reads (value bound limit) text (kept limit text)

theorem keeps_items {items : List (Padded Bytes)} (hblank : ∀ p ∈ items, p.IsBlank)
    (h : ∀ p ∈ items, IsValue p.inner) (hkeeps : ∀ p ∈ items, Keeps p.inner) :
    Keeps (0x5B :: (Printer.separated (Padded.bytes id) items ++ [0x5D])) := by
  intro limit bound
  cases limit with
  | zero => exact reads_kept ⟨none, fun _ _ _ _ => rfl⟩
  | succ limit =>
    refine reads_kept ⟨(items.foldlM (fun s p => (kept limit p.inner).map (· :: s)) []).map
      (.array ·.reverse), fun bound hb rest _ => ?_⟩
    obtain ⟨hcount, hlength⟩ := length_of_mem_items hb
    have hread : ∀ p ∈ items, ∀ s, Reads (element bound limit s) (id p.inner)
        ((kept limit p.inner).map (· :: s)) := fun p hp s =>
      (hkeeps p hp _ _ (Nat.le_succ_of_le (hlength p hp))).map (· :: s)
    have hcontainer := container_padded (fun s text => (kept limit text).map (· :: s))
      (.inl rfl) rest (s := []) hcount hblank (fun p hp => opensValue_of_isValue (h p hp)) hread
    rw [List.cons_append, List.append_assoc, List.singleton_append, value_array, toOption_bind,
      hcontainer]
    cases items.foldlM (fun s p => (kept limit p.inner).map (· :: s)) [] <;> rfl

theorem keeps_members {members : List (Padded Member)} (hblank : ∀ p ∈ members, p.IsBlank)
    (hkeyed : ∀ p ∈ members, p.inner.IsKeyed) (hkeeps : ∀ p ∈ members, Keeps p.inner.value) :
    Keeps (0x7B :: (Printer.separated (Padded.bytes Member.bytes) members ++ [0x7D])) := by
  intro limit bound
  cases limit with
  | zero => exact reads_kept ⟨none, fun _ _ _ _ => rfl⟩
  | succ limit =>
    let step : List (String × Value) → Member → Option (List (String × Value)) := fun s m =>
      (keyText m).bind fun k => (kept limit m.value).map fun v => (k, v) :: s
    refine reads_kept ⟨(members.foldlM (fun s p => step s p.inner) []).map (.object ·.reverse),
      fun bound hb rest _ => ?_⟩
    obtain ⟨hcount, hlength⟩ := length_of_mem_members hb
    have hread : ∀ p ∈ members, ∀ s, Reads (member bound limit s) p.inner.bytes
        (step s p.inner) := fun p hp =>
      reads_member (hkeyed p hp) (hkeeps p hp _ _ (Nat.le_succ_of_le (hlength p hp)))
    have hcontainer := container_padded step (.inr rfl) rest (s := []) hcount hblank
      (fun p _ => opensValue_bytes p.inner) hread
    rw [List.cons_append, List.append_assoc, List.singleton_append, value_object, toOption_bind,
      hcontainer]
    cases members.foldlM (fun s p => step s p.inner) [] <;> rfl

/-- A value is kept alike wherever it stands. -/
theorem keeps_value {text : Bytes} (h : IsValue text) : Keeps text := by
  induction h with
  | null => exact fun _ _ => reads_value_of_scalar .null (by decide) (by decide)
  | true => exact fun _ _ => reads_value_of_scalar .true (by decide) (by decide)
  | false => exact fun _ _ => reads_value_of_scalar .false (by decide) (by decide)
  | string h => exact fun _ _ => reads_value_of_scalar (.string h) (by decide) (by decide)
  | number h =>
    obtain ⟨b, more, rfl, hb⟩ := beginsNumeral_of_isNumber h
    exact fun _ _ => reads_value_of_scalar (.number h) (ne_of_beginsNumeral hb rfl)
      (ne_of_beginsNumeral hb rfl)
  | @emptyArray blank h =>
    intro limit bound
    cases limit with
    | zero => exact reads_kept ⟨none, fun _ _ _ _ => rfl⟩
    | succ limit =>
      refine reads_kept ⟨some (.array []), fun bound _ rest _ => ?_⟩
      rw [List.cons_append, List.append_assoc, List.singleton_append, value_array,
        container_blank h (.inl rfl)]
      rfl
  | array hblank h ih => exact keeps_items hblank h ih
  | @emptyObject blank h =>
    intro limit bound
    cases limit with
    | zero => exact reads_kept ⟨none, fun _ _ _ _ => rfl⟩
    | succ limit =>
      refine reads_kept ⟨some (.object []), fun bound _ rest _ => ?_⟩
      rw [List.cons_append, List.append_assoc, List.singleton_append, value_object,
        container_blank h (.inr rfl)]
      rfl
  | object hblank hkeyed _ ih => exact keeps_members hblank hkeyed ih

end Reader

end DebugAdapter.Json
