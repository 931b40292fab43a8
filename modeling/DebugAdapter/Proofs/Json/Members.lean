import DebugAdapter.Proofs.Json.Acceptance
import DebugAdapter.Proofs.Json.Fields

/-! # Records as sets of members

What a member of an object adds to the fields of a record depends on the member alone, and a
member that is not known adds nothing. So a record is the same however its members are ordered
and whatever unknown members are put between them. -/

namespace DebugAdapter.Json

open Grammar

namespace Reader

/-! ## Values of a known type -/

theorem text_append {v : Bytes} (h : IsValue v) : ∃ o, Reads text v o := by
  cases h with
  | @string inside h =>
    obtain ⟨o, ho⟩ := string_append_quote h
    refine ⟨o, fun rest _ => ?_⟩
    rw [List.cons_append, List.append_assoc]
    exact ho rest
  | number h =>
    have hopens := opensValue_of_isValue (.number h)
    obtain ⟨b, more, rfl, hb⟩ := beginsNumeral_of_isNumber h
    refine ⟨none, fun rest _ => ?_⟩
    rw [text, space_of_opensValue hopens, List.cons_append]
    split
    · rename_i heq
      exact absurd (List.cons.inj heq).1 (ne_of_beginsNumeral hb rfl)
    · rfl
  | null | true | false | emptyArray | array | emptyObject | object =>
    exact ⟨none, fun _ _ => rfl⟩

theorem integer_append {v : Bytes} (h : IsValue v) : ∃ o, Reads integer v o := by
  obtain ⟨o, ho⟩ := scalar_append h
  refine ⟨o.bind Value.int64?, fun rest hrest => ?_⟩
  rw [integer, space_of_opensValue (opensValue_of_isValue h)]
  obtain ⟨⟨e, he⟩, rfl⟩ | ⟨v, he, rfl⟩ := cases_of_toOption (ho rest hrest)
  · rw [he]
    rfl
  · rw [he]
    cases v with
    | number n =>
      cases n with
      | integer n =>
        simp only [Option.bind_some, Value.int64?]
        split <;> rfl
      | double x => rfl
    | null | bool | string | array | object => rfl

theorem flag_append {v : Bytes} (h : IsValue v) : ∃ o, Reads flag v o := by
  obtain ⟨o, ho⟩ := scalar_append h
  refine ⟨o.bind Value.bool?, fun rest hrest => ?_⟩
  rw [flag, space_of_opensValue (opensValue_of_isValue h)]
  obtain ⟨⟨e, he⟩, rfl⟩ | ⟨v, he, rfl⟩ := cases_of_toOption (ho rest hrest)
  · rw [he]
    rfl
  · rw [he]
    cases v <;> rfl

/-- Only `null` begins like the word. -/
theorem optional_append {α : Type} {read : Bytes → Except Error (α × Bytes)} {v : Bytes}
    {o : Option α} (h : IsValue v) (ho : Reads read v o) :
    Reads (optional read) v
      (if v = [0x6E, 0x75, 0x6C, 0x6C] then some none else o.map some) := by
  by_cases hnull : v = [0x6E, 0x75, 0x6C, 0x6C]
  · subst hnull
    exact fun _ _ => rfl
  · have hfirst : ∀ rest more, v ++ rest ≠ 0x6E :: more := by
      intro rest more heq
      cases h with
      | null => exact hnull rfl
      | number h =>
        obtain ⟨b, digits, rfl, hb⟩ := beginsNumeral_of_isNumber h
        exact ne_of_beginsNumeral hb rfl (List.cons.inj heq).1
      | true | false | string | emptyArray | array | emptyObject | object =>
        exact absurd (List.cons.inj heq).1 (by decide)
    intro rest hrest
    rw [if_neg hnull, optional, space_of_opensValue (opensValue_of_isValue h)]
    split
    · rename_i heq
      exact absurd heq (hfirst rest _)
    · exact ho.map some rest hrest

end Reader

namespace FieldType

open Reader

/-- Whether a value fits a field, and what is held of it then, depends on the value alone. -/
theorem read_append (type : FieldType) {v : Bytes} (h : IsValue v) :
    ∃ o, ∀ bound, v.length ≤ bound + 1 → Reads (type.read bound) v o := by
  cases type with
  | text =>
    obtain ⟨o, ho⟩ := text_append h
    exact ⟨_, fun _ _ => ho.map Held.text⟩
  | integer =>
    obtain ⟨o, ho⟩ := integer_append h
    exact ⟨_, fun _ _ => ho.map Held.integer⟩
  | flag =>
    obtain ⟨o, ho⟩ := flag_append h
    exact ⟨_, fun _ _ => ho.map Held.flag⟩
  | optionalText =>
    obtain ⟨o, ho⟩ := text_append h
    exact ⟨_, fun _ _ => (optional_append h ho).map Held.optionalText⟩
  | optionalValue =>
    exact ⟨_, fun _ hb => (optional_append h (keeps_value h _ _ hb)).map Held.optionalValue⟩

theorem read_blank {blank : Bytes} (hb : IsBlank blank) (type : FieldType) (bound : Nat)
    (rest : Bytes) : type.read bound (blank ++ rest) = type.read bound rest := by
  cases type with
  | text => rw [read, read, Reader.text, Reader.text, space_blank hb]
  | integer => rw [read, read, Reader.integer, Reader.integer, space_blank hb]
  | flag => rw [read, read, Reader.flag, Reader.flag, space_blank hb]
  | optionalText => rw [read, read, Reader.optional, Reader.optional, space_blank hb]
  | optionalValue => rw [read, read, Reader.optional, Reader.optional, space_blank hb]

end FieldType

/-! ## Objects -/

namespace Grammar

/-- An object, its members between blanks, with what stands before and after it. -/
structure Object where
  before : Bytes
  members : List (Padded Member)
  after : Bytes

namespace Object

def bytes (o : Object) : Bytes :=
  o.before ++ 0x7B :: (Printer.separated (Padded.bytes Member.bytes) o.members ++
    0x7D :: o.after)

structure IsObject (o : Object) : Prop where
  before : IsBlank o.before
  after : IsBlank o.after
  blanks : ∀ p ∈ o.members, p.IsBlank
  members : ∀ p ∈ o.members, p.inner.IsMember

end Object

end Grammar

namespace Fields

open Reader (Reads alone keyText key_bytes)

/-- What a member adds to the fields of a record: nothing if it is not one of them. A member
that is refused has no effect at all. -/
def effect (known : List Field) (m : Member) : Option (Option (String × Held)) := do
  let name ← keyText m
  match known.find? (·.name == name) with
  | none => some none
  | some field => do
    let held ← alone (field.type.read m.value.length) m.value
    some (some (name, held))

/-- No field is added twice. -/
def add (read : Fields) : Option (String × Held) → Option Fields
  | none => some read
  | some (name, held) =>
    if (read.lookup name).isSome then none else some ((name, held) :: read)

theorem reads_member {m : Member} (hm : m.IsMember) (known : List Field) {bound : Nat}
    (hb : m.value.length ≤ bound) (read : Fields) :
    Reads (member bound known read) m.bytes ((effect known m).bind (add read)) := by
  intro rest hrest
  rw [member, toOption_bind, key_bytes hm.toIsKeyed, effect]
  cases keyText m with
  | none => rfl
  | some name =>
    simp only [Option.map_some, Option.bind_some, Option.bind_eq_bind]
    cases known.find? (·.name == name) with
    | none =>
      simp only
      rw [toOption_bind, Reader.colon_blank hm.beforeColon]
      simp only [toOption_ok, Option.bind_some]
      rw [toOption_bind, Reader.skip_blank hm.afterColon, Reader.skips_value hm.value _ _ hb hrest]
      rfl
    | some field =>
      obtain ⟨o, ho⟩ := field.type.read_append hm.value
      have halone : alone (field.type.read m.value.length) m.value = o :=
        Reader.alone_eq (ho _ (Nat.le_succ _) [] rfl)
      simp only [halone]
      by_cases hseen : (read.lookup name).isSome = true
      · rw [if_pos hseen]
        cases o with
        | none => rfl
        | some held =>
          simp only [Option.bind_some, add]
          rw [if_pos hseen]
          rfl
      · rw [if_neg hseen, toOption_bind, Reader.colon_blank hm.beforeColon]
        simp only [toOption_ok, Option.bind_some]
        rw [toOption_bind, FieldType.read_blank hm.afterColon, ho bound (by omega) rest hrest]
        cases o with
        | none => rfl
        | some held =>
          simp only [Option.map_some, Option.bind_some, add]
          rw [if_neg hseen]
          rfl

/-- The fields that the members of an object give. -/
def ofObject (known : List Field) (members : List Member) : Option Fields :=
  (members.foldlM (fun read m => (effect known m).bind (add read)) []).filter (isComplete known)

/-- A record that is written as an object consists of what its members add. -/
theorem ofBytes_object {o : Object} (h : o.IsObject) (known : List Field) :
    (ofBytes known o.bytes).toOption = ofObject known (o.members.map (·.inner)) := by
  have hlength : (0x7B :: (Printer.separated (Padded.bytes Member.bytes) o.members ++
      [0x7D])).length ≤ o.bytes.length + 1 := by
    simp only [Object.bytes, List.length_append, List.length_cons, List.length_nil]
    omega
  obtain ⟨hcount, hvalues⟩ := Reader.length_of_mem_members hlength
  have hread : ∀ p ∈ o.members, ∀ read, Reads (member (o.bytes.length + 1) known read)
      p.inner.bytes ((effect known p.inner).bind (add read)) := fun p hp =>
    reads_member (h.members p hp) known (Nat.le_succ_of_le (hvalues p hp))
  have hcontainer := Reader.container_padded (fun read m => (effect known m).bind (add read))
    (.inr rfl) o.after (s := []) (Nat.le_succ_of_le hcount) h.blanks
    (fun p _ => Reader.opensValue_bytes p.inner) hread
  have hspace : Reader.space o.bytes = 0x7B ::
      (Printer.separated (Padded.bytes Member.bytes) o.members ++ 0x7D :: o.after) := by
    rw [Object.bytes, space_blank h.before]
    rfl
  have hafter : Reader.space o.after = [] := by
    rw [← List.append_nil o.after, space_blank h.after]
    rfl
  rw [ofBytes, hspace]
  simp only
  rw [if_pos trivial, Reader.complete, ofObject, List.foldlM_map]
  obtain ⟨⟨e, he⟩, hfold⟩ | ⟨read, he, hfold⟩ := Reader.cases_of_toOption hcontainer
  · rw [he, hfold]
    rfl
  · rw [he, hfold]
    simp only [bind, Except.bind]
    by_cases hcomplete : isComplete known read = true
    · rw [if_pos hcomplete, Option.filter_some, if_pos hcomplete]
      simp only
      rw [hafter]
      rfl
    · rw [if_neg hcomplete, Option.filter_some, if_neg hcomplete]
      rfl

/-! ## The order of members -/

/-- What is held of each field. -/
def view (read : Fields) (name : String) : Option Held := read.lookup name

/-- What is held after one more member, or nothing at all after one that is refused. -/
def put (seen : Option (String → Option Held)) (effect : Option (Option (String × Held))) :
    Option (String → Option Held) :=
  match seen, effect with
  | some seen, some none => some seen
  | some seen, some (some (name, held)) =>
    if (seen name).isSome then none else some fun n => if n = name then some held else seen n
  | _, _ => none

theorem put_none (e : Option (Option (String × Held))) : put none e = none := rfl

theorem put_refused (seen : Option (String → Option Held)) : put seen none = none := by
  cases seen <;> rfl

theorem put_unknown (seen : Option (String → Option Held)) : put seen (some none) = seen := by
  cases seen <;> rfl

theorem view_add (read : Fields) (e : Option (Option (String × Held))) :
    (e.bind (add read)).map view = put (some read.view) e := by
  match e with
  | none => rfl
  | some none => rfl
  | some (some (name, held)) =>
    simp only [Option.bind_some, add, put]
    by_cases hseen : (read.lookup name).isSome = true
    · rw [if_pos hseen]
      exact (if_pos hseen).symm
    · rw [if_neg hseen]
      refine Eq.trans (congrArg some (funext fun n => ?_)) (if_neg hseen).symm
      rw [view, List.lookup_cons]
      by_cases hn : n = name
      · simp [hn]
      · simp [hn, beq_false_of_ne hn, view]

theorem view_foldlM (known : List Field) (members : List Member) (read : Fields) :
    (members.foldlM (fun read m => (effect known m).bind (add read)) read).map view =
      (members.map (effect known)).foldl put (some read.view) := by
  induction members generalizing read with
  | nil => rfl
  | cons m members ih =>
    rw [List.foldlM_cons, List.map_cons, List.foldl_cons, ← view_add]
    cases (effect known m).bind (add read) with
    | none =>
      have hnone : ∀ es, List.foldl put none es = none := by
        intro es
        induction es with
        | nil => rfl
        | cons e es ih => rw [List.foldl_cons, put_none, ih]
      exact (hnone _).symm
    | some next => exact ih next

/-- Of two members it does not matter which comes first: either both can be added, or not. -/
theorem put_comm (seen : Option (String → Option Held)) (d e : Option (Option (String × Held))) :
    put (put seen d) e = put (put seen e) d := by
  match seen, d, e with
  | none, _, _ => rfl
  | _, none, e => rw [put_refused, put_refused, put_none]
  | _, d, none => rw [put_refused, put_refused, put_none]
  | _, some none, e => rw [put_unknown, put_unknown]
  | _, d, some none => rw [put_unknown, put_unknown]
  | some seen, some (some (a, x)), some (some (b, y)) =>
    by_cases hab : a = b
    · subst hab
      by_cases ha : (seen a).isSome = true <;> simp [put, ha]
    · have hba : b ≠ a := fun h => hab h.symm
      by_cases ha : (seen a).isSome = true <;> by_cases hb : (seen b).isSome = true
      · simp [put, ha, hb]
      · simp [put, ha, hb, hab]
      · simp [put, ha, hb, hba]
      · simp only [put, ha, hb, hab, hba, if_false, Bool.false_eq_true]
        refine congrArg some (funext fun n => ?_)
        by_cases hn : n = a
        · subst hn
          simp [hab]
        · simp [hn]

theorem foldl_put_perm {es es' : List (Option (Option (String × Held)))} (h : es'.Perm es)
    (seen : Option (String → Option Held)) : es'.foldl put seen = es.foldl put seen :=
  h.foldl_eq' (fun d _ e _ seen => put_comm seen d e) seen

/-- A member that is not known adds nothing. -/
theorem effect_of_spells {m : Member} {name : String} (h : Spells m.key name.toList)
    {known : List Field} (hname : ∀ field ∈ known, field.name ≠ name) :
    effect known m = some none := by
  have hkey : keyText m = some name := by
    have hread := Reader.string_spells h []
    rw [String.ofList_toList] at hread
    rw [keyText, alone, hread]
    rfl
  have hfind : known.find? (·.name == name) = none := by
    rw [List.find?_eq_none]
    intro field hfield heq
    exact hname field hfield (eq_of_beq heq)
  rw [effect, hkey]
  simp only [Option.bind_eq_bind, Option.bind_some, hfind]

theorem foldl_put_unknown {es : List (Option (Option (String × Held)))}
    (h : ∀ e ∈ es, e = some none) (seen : Option (String → Option Held)) :
    es.foldl put seen = seen := by
  induction es with
  | nil => rfl
  | cons e es ih =>
    rw [List.foldl_cons, h e List.mem_cons_self, put_unknown]
    exact ih fun e he => h e (List.mem_cons_of_mem _ he)

/-- Neither the order of the members nor members that are not known make a difference. -/
theorem view_ofObject {known : List Field} {members members' extra : List Member}
    (hperm : members'.Perm (members ++ extra))
    (hextra : ∀ m ∈ extra, effect known m = some none) :
    (ofObject known members').map view = (ofObject known members).map view := by
  have hfold : ((members'.map (effect known)).foldl put (some (view []))) =
      (members.map (effect known)).foldl put (some (view [])) := by
    rw [foldl_put_perm (hperm.map (effect known)), List.map_append, List.foldl_append]
    refine foldl_put_unknown (fun e he => ?_) _
    obtain ⟨m, hm, rfl⟩ := List.mem_map.mp he
    exact hextra m hm
  let complete : (String → Option Held) → Bool := fun seen =>
    known.all fun field => field.type.isOptional || (seen field.name).isSome
  have hfilter : ∀ o : Option Fields,
      (o.filter (isComplete known)).map view = (o.map view).filter complete := by
    intro o
    cases o with
    | none => rfl
    | some read =>
      by_cases hc : isComplete known read = true
      · rw [Option.filter_some, if_pos hc, Option.map_some, Option.filter_some]
        exact (if_pos hc).symm
      · rw [Option.filter_some, if_neg hc, Option.map_some, Option.filter_some]
        exact (if_neg hc).symm
  rw [ofObject, ofObject, hfilter, hfilter, view_foldlM, view_foldlM, hfold]

theorem ofBytes_rearranged {o o' : Object} (h : o.IsObject) (h' : o'.IsObject)
    {known : List Field} {extra : List Member}
    (hperm : (o'.members.map (·.inner)).Perm (o.members.map (·.inner) ++ extra))
    (hextra : ∀ m ∈ extra, effect known m = some none) {read : Fields}
    (hread : ofBytes known o.bytes = .ok read) :
    ∃ read', ofBytes known o'.bytes = .ok read' ∧ read'.view = read.view := by
  have hview := view_ofObject hperm hextra
  rw [← ofBytes_object h, ← ofBytes_object h', hread, toOption_ok, Option.map_some] at hview
  obtain ⟨read', hread', heq⟩ := Option.map_eq_some_iff.mp hview
  exact ⟨read', eq_ok_of_toOption hread', heq⟩

end Fields

end DebugAdapter.Json
