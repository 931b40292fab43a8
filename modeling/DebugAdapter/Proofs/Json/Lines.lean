import DebugAdapter.Proofs.Json.Containers
import DebugAdapter.Proofs.Json.Shape

/-! # Printed documents stay on one line

Whatever a document holds, its printed form is a text without control characters: the strings in
it are escaped, and everything else is printed with visible characters only. -/

namespace DebugAdapter.Json.Printer

/-! ## Texts without control characters -/

/-- The bytes of a text without control characters. -/
def IsLine (bytes : Bytes) : Prop :=
  ∃ cs : List Char, cs.flatMap String.utf8EncodeChar = bytes ∧ ∀ c ∈ cs, 0x20 ≤ c.toNat

theorem IsLine.nil : IsLine [] := ⟨[], rfl, fun _ h => absurd h List.not_mem_nil⟩

theorem IsLine.append {first second : Bytes} (h : IsLine first) (h' : IsLine second) :
    IsLine (first ++ second) := by
  obtain ⟨cs, rfl, hcs⟩ := h
  obtain ⟨ds, rfl, hds⟩ := h'
  refine ⟨cs ++ ds, List.flatMap_append, fun c hc => ?_⟩
  rcases List.mem_append.mp hc with hc | hc
  · exact hcs c hc
  · exact hds c hc

/-- A visible byte of Ascii. -/
def isVisible (b : UInt8) : Bool := 0x20 ≤ b && b < 0x80

theorem isLine_of_visible {bytes : Bytes} (h : bytes.all isVisible = true) : IsLine bytes := by
  induction bytes with
  | nil => exact .nil
  | cons b rest ih =>
    obtain ⟨hb, hrest⟩ := Bool.and_eq_true_iff.mp h
    simp only [isVisible, Bool.and_eq_true, decide_eq_true_eq, UInt8.le_iff_toNat_le,
      UInt8.lt_iff_toNat_lt] at hb
    have hfirst : IsLine [b] := by
      refine ⟨[Char.ofNat b.toNat], ?_, fun c hc => ?_⟩
      · rw [List.flatMap_singleton, Utf8.utf8EncodeChar_ofNat hb.2]
      · rw [List.mem_singleton.mp hc, Utf8.toNat_ofNat_of_lt hb.2]
        exact hb.1
    exact hfirst.append (ih hrest)

theorem IsLine.cons {b : UInt8} {rest : Bytes} (hb : isVisible b = true) (h : IsLine rest) :
    IsLine (b :: rest) := by
  have hall : [b].all isVisible = true := Bool.and_eq_true_iff.mpr ⟨hb, rfl⟩
  exact (isLine_of_visible hall).append h

theorem IsLine.flatMap {α : Type} {text : α → Bytes} {as : List α}
    (h : ∀ a ∈ as, IsLine (text a)) : IsLine (as.flatMap text) := by
  induction as with
  | nil => exact .nil
  | cons a as ih =>
    rw [List.flatMap_cons]
    exact (h a List.mem_cons_self).append (ih fun a ha => h a (List.mem_cons_of_mem _ ha))

/-- No byte of such a text breaks a line. -/
theorem IsLine.not_mem {bytes : Bytes} (h : IsLine bytes) : 0x0A ∉ bytes ∧ 0x0D ∉ bytes := by
  obtain ⟨cs, rfl, hcs⟩ := h
  have hle : ∀ b ∈ cs.flatMap String.utf8EncodeChar, 0x20 ≤ b := by
    intro b hb
    obtain ⟨c, hc, hb⟩ := List.mem_flatMap.mp hb
    by_cases hlt : c.toNat < 0x80
    · rw [Utf8.utf8EncodeChar_of_lt hlt, List.mem_singleton] at hb
      have hc' : 0x20 ≤ c.val.toNat := hcs c hc
      have hlt' : c.val.toNat < 0x80 := hlt
      rw [hb, UInt8.le_iff_toNat_le, Char.toUInt8, UInt32.toNat_toUInt8,
        Nat.mod_eq_of_lt (by omega)]
      exact hc'
    · have hplain := Reader.isPlain_of_mem_utf8EncodeChar (hcs c hc) (by omega) (by omega) b hb
      simp only [Reader.isPlain, Bool.and_eq_true, decide_eq_true_eq] at hplain
      exact hplain.2
  exact ⟨fun h => absurd (hle _ h) (by decide), fun h => absurd (hle _ h) (by decide)⟩

theorem IsLine.exists_text {bytes : Bytes} (h : IsLine bytes) :
    ∃ text, Utf8.encode text = bytes := by
  obtain ⟨cs, rfl, -⟩ := h
  exact ⟨String.ofList cs, by rw [Utf8.encode, String.toList_ofList]⟩

/-! ## Printed values -/

theorem visible_encode (n : Nat) : (Decimal.encode n).all isVisible = true := by
  refine List.all_eq_true.mpr fun b hb => ?_
  have hdigit := Decimal.isDigit_of_mem_encode b hb
  simp only [Decimal.isDigit, isVisible, Bool.and_eq_true, decide_eq_true_eq,
    UInt8.le_iff_toNat_le, UInt8.lt_iff_toNat_lt] at hdigit ⊢
  have h30 : (0x30 : UInt8).toNat = 0x30 := rfl
  have h39 : (0x39 : UInt8).toNat = 0x39 := rfl
  have h20 : (0x20 : UInt8).toNat = 0x20 := rfl
  have h80 : (0x80 : UInt8).toNat = 0x80 := rfl
  omega

theorem visible_zeros (n : Nat) : (List.replicate n (0x30 : UInt8)).all isVisible = true :=
  List.all_eq_true.mpr fun _ hb => by rw [List.eq_of_mem_replicate hb]; rfl

section Digits

variable {digits : Bytes} (h : digits.all isVisible = true) (power : Int)

include h

theorem visible_take (n : Nat) : (digits.take n).all isVisible = true :=
  List.all_eq_true.mpr fun b hb => List.all_eq_true.mp h b (List.mem_of_mem_take hb)

theorem visible_drop (n : Nat) : (digits.drop n).all isVisible = true :=
  List.all_eq_true.mpr fun b hb => List.all_eq_true.mp h b (List.mem_of_mem_drop hb)

theorem visible_positional : (positional digits power).all isVisible = true := by
  unfold positional
  split
  · simp only [List.all_append, Bool.and_eq_true]
    exact ⟨⟨rfl, visible_zeros _⟩, h⟩
  · simp only [List.all_append, Bool.and_eq_true]
    refine ⟨⟨⟨visible_take h _, visible_zeros _⟩, rfl⟩, ?_⟩
    split
    · rfl
    · exact visible_drop h _

theorem visible_scientific : (scientific digits power).all isVisible = true := by
  simp only [scientific, List.all_append, Bool.and_eq_true]
  refine ⟨⟨⟨visible_take h _, ?_⟩, ?_⟩, visible_encode _⟩
  · split
    · rfl
    · exact Bool.and_eq_true_iff.mpr ⟨rfl, visible_drop h _⟩
  · split <;> rfl

end Digits

theorem isLine_number (n : Number) : IsLine (number n) := by
  cases n with
  | integer n =>
    change IsLine (Decimal.encodeInt n.val)
    unfold Decimal.encodeInt
    split
    · exact .cons rfl (isLine_of_visible (visible_encode _))
    · exact isLine_of_visible (visible_encode _)
  | double x =>
    have htext : ∀ power : Int, IsLine
        (if leastPositional ≤ power ∧ power ≤ greatestPositional then
          positional (Decimal.encode (Shortest.decimal x).digits) power
        else scientific (Decimal.encode (Shortest.decimal x).digits) power) := by
      intro power
      split
      · exact isLine_of_visible (visible_positional (visible_encode _) power)
      · exact isLine_of_visible (visible_scientific (visible_encode _) power)
    change IsLine (double x)
    unfold double
    dsimp only
    split
    · exact .cons rfl (htext _)
    · exact htext _

/-- Controls are escaped, and every other character stands for itself or is escaped. -/
theorem isLine_character (c : Char) : IsLine (character c) := by
  have hhex : ∀ n < 16, isVisible (hexDigit n) = true := by decide
  unfold character
  dsimp only
  split
  · exact isLine_of_visible (by decide)
  split
  · exact isLine_of_visible (by decide)
  split
  · exact isLine_of_visible (by decide)
  split
  · exact isLine_of_visible (by decide)
  split
  · exact isLine_of_visible (by decide)
  split
  · exact isLine_of_visible (by decide)
  split
  · exact isLine_of_visible (by decide)
  split
  · rename_i hcontrol
    have hhigh := hhex (c.toNat / 16) (by omega)
    have hlow := hhex (c.toNat % 16) (Nat.mod_lt _ (by decide))
    exact .cons rfl (.cons rfl (.cons rfl (.cons rfl (.cons hhigh (.cons hlow .nil)))))
  · rename_i hcontrol
    exact ⟨[c], List.flatMap_singleton .., by simpa using hcontrol⟩

theorem isLine_string (text : String) : IsLine (string text) :=
  .cons rfl ((IsLine.flatMap fun c _ => isLine_character c).append (.cons rfl .nil))

theorem isLine_separated {α : Type} {text : α → Bytes} {as : List α}
    (h : ∀ a ∈ as, IsLine (text a)) : IsLine (separated text as) := by
  cases as with
  | nil => exact .nil
  | cons a as =>
    exact (h a List.mem_cons_self).append
      (.flatMap fun a ha => .cons rfl (h a (List.mem_cons_of_mem _ ha)))

theorem isLine_value (v : Value) : IsLine (value v) := by
  induction v using Value.induct with
  | null => exact isLine_of_visible (by decide)
  | bool b => cases b <;> exact isLine_of_visible (by decide)
  | number n => exact isLine_number n
  | string text => exact isLine_string text
  | array items ih =>
    rw [value_array]
    exact .cons rfl ((isLine_separated ih).append (.cons rfl .nil))
  | object members ih =>
    have hmember : ∀ m ∈ members, IsLine (member m) := fun m hm =>
      (isLine_string m.1).append (.cons rfl (ih m hm))
    rw [value_object]
    exact .cons rfl ((isLine_separated hmember).append (.cons rfl .nil))

end DebugAdapter.Json.Printer
