import DebugAdapter.Proofs.Json.Members
import DebugAdapter.Protocol.Envelope

/-! # Rearranged messages

The order of a message's members is of no account, nor are members that belong to no field of
its kind: a payload that is a message stays that message when its members are put in another
order, and when any values are added under keys of their own, however large or deep they are.
Such a key has to spell a text: a key with half a pair of UTF-16 units is grammatical, but it is
read before it is known to be foreign. -/

namespace DebugAdapter.Protocol

open Json
open Json.Grammar

/-! ## Reading from what is held -/

section Congruence

variable {read read' : Fields} (h : read'.view = read.view)

include h

theorem lookup_eq_of_view (name : String) : read'.lookup name = read.lookup name := congrFun h name

theorem text_eq_of_view (name : String) : read'.text name = read.text name := by
  rw [Fields.text, Fields.text, lookup_eq_of_view h]

theorem integer_eq_of_view (name : String) : read'.integer name = read.integer name := by
  rw [Fields.integer, Fields.integer, lookup_eq_of_view h]

theorem flag_eq_of_view (name : String) : read'.flag name = read.flag name := by
  rw [Fields.flag, Fields.flag, lookup_eq_of_view h]

theorem text?_eq_of_view (name : String) : read'.text? name = read.text? name := by
  rw [Fields.text?, Fields.text?, lookup_eq_of_view h]

theorem value?_eq_of_view (name : String) : read'.value? name = read.value? name := by
  rw [Fields.value?, Fields.value?, lookup_eq_of_view h]

end Congruence

/-! ## The two passes -/

def MessageKind.fields : MessageKind → List Field
  | .request => requestFields
  | .response => responseFields
  | .event => eventFields

/-- Whether a member belongs to no field of a kind of messages, nor to their type. -/
def IsForeign (kind : MessageKind) (m : Member) : Prop :=
  ∃ name : String, Spells m.key name.toList ∧
    ∀ field ∈ envelopeFields ++ kind.fields, field.name ≠ name

/-- The members of one object in any order, among others that are foreign to a kind. -/
structure Rearranges (kind : MessageKind) (o o' : Object) (extra : List Member) : Prop where
  isObject : o.IsObject
  isObject' : o'.IsObject
  foreign : ∀ m ∈ extra, IsForeign kind m
  perm : (o'.members.map (·.inner)).Perm (o.members.map (·.inner) ++ extra)

namespace Rearranges

variable {kind : MessageKind} {o o' : Object} {extra : List Member}

/-- A reader of fields that goes by what is held of them gives the same for both objects. -/
theorem bind_fields (h : Rearranges kind o o' extra) {known : List Field}
    (hknown : ∀ field ∈ known, field ∈ envelopeFields ++ kind.fields) {α : Type}
    {read : Fields → Except Error α}
    (hread : ∀ fields fields', fields'.view = fields.view → read fields' = read fields) {a : α}
    (hok : (liftJson (Fields.ofBytes known o.bytes) >>= read) = .ok a) :
    (liftJson (Fields.ofBytes known o'.bytes) >>= read) = .ok a := by
  cases hfields : Fields.ofBytes known o.bytes with
  | error e =>
    rw [hfields] at hok
    exact absurd hok (by simp [liftJson, bind, Except.bind])
  | ok fields =>
    have hextra : ∀ m ∈ extra, Fields.effect known m = some none := by
      intro m hm
      obtain ⟨name, hspells, hname⟩ := h.foreign m hm
      exact Fields.effect_of_spells hspells fun field hfield => hname field (hknown field hfield)
    obtain ⟨fields', hfields', hview⟩ :=
      Fields.ofBytes_rearranged h.isObject h.isObject' h.perm hextra hfields
    rw [hfields] at hok
    rw [hfields', ← hok]
    exact hread fields fields' hview

/-- The first pass looks at the type alone, and sees every other member as foreign. -/
theorem readKind_eq (h : Rearranges kind o o' extra) {k : MessageKind}
    (hread : readKind o.bytes = .ok k) : readKind o'.bytes = .ok k := by
  let kindOf : Fields → Except Error MessageKind := fun fields => do
    let name ← liftJson (fields.text "type")
    (MessageKind.ofName? name).elim (.error (.unrecognizedMessageType name)) .ok
  have hshape : ∀ payload, readKind payload =
      liftJson (Fields.ofBytes envelopeFields payload) >>= kindOf := by
    intro payload
    rw [readKind]
    cases Fields.ofBytes envelopeFields payload with
    | error e => rfl
    | ok fields =>
      refine bind_congr fun name => ?_
      cases MessageKind.ofName? name <;> rfl
  rw [hshape] at hread ⊢
  refine h.bind_fields (fun _ hfield => List.mem_append_left _ hfield) ?_ hread
  intro fields fields' hview
  simp only [kindOf, text_eq_of_view hview]

theorem readRequest_eq (h : Rearranges .request o o' extra) {r : Request}
    (hread : readRequest o.bytes = .ok r) : readRequest o'.bytes = .ok r := by
  refine h.bind_fields (fun _ hfield => List.mem_append_right _ hfield) ?_ hread
  intro fields fields' hview
  simp only [text_eq_of_view hview, integer_eq_of_view hview, value?_eq_of_view hview]

theorem readResponse_eq (h : Rearranges .response o o' extra) {r : Response}
    (hread : readResponse o.bytes = .ok r) : readResponse o'.bytes = .ok r := by
  refine h.bind_fields (fun _ hfield => List.mem_append_right _ hfield) ?_ hread
  intro fields fields' hview
  simp only [text_eq_of_view hview, integer_eq_of_view hview, flag_eq_of_view hview,
    text?_eq_of_view hview, value?_eq_of_view hview]

theorem readEvent_eq (h : Rearranges .event o o' extra) {e : Event}
    (hread : readEvent o.bytes = .ok e) : readEvent o'.bytes = .ok e := by
  refine h.bind_fields (fun _ hfield => List.mem_append_right _ hfield) ?_ hread
  intro fields fields' hview
  simp only [text_eq_of_view hview, integer_eq_of_view hview, value?_eq_of_view hview]

end Rearranges

/-! ## Whole messages -/

theorem eq_of_bind_ok {α β : Type} {x : Except Error α} {f : α → β} {b : β}
    (h : (x >>= fun a => .ok (f a)) = .ok b) : ∃ a, x = .ok a ∧ f a = b := by
  cases x with
  | error e => exact nomatch h
  | ok a => exact ⟨a, rfl, Except.ok.inj h⟩

/-- Neither the order of its members nor members that are foreign to its kind change what a payload
says. -/
theorem ofPayload_rearranged {o o' : Object} {extra : List Member} {m : Message}
    (hm : Message.ofPayload o.bytes = .ok m) (h : Rearranges m.kind o o' extra) :
    Message.ofPayload o'.bytes = .ok m := by
  cases hkind : readKind o.bytes with
  | error e =>
    rw [Message.ofPayload, hkind] at hm
    exact nomatch hm
  | ok kind =>
    rw [Message.ofPayload, hkind] at hm
    rw [Message.ofPayload, h.readKind_eq hkind]
    cases kind with
    | request =>
      obtain ⟨r, hr, rfl⟩ := eq_of_bind_ok hm
      change (readRequest o'.bytes >>= _) = _
      rw [h.readRequest_eq hr]
      rfl
    | response =>
      obtain ⟨r, hr, rfl⟩ := eq_of_bind_ok hm
      change (readResponse o'.bytes >>= _) = _
      rw [h.readResponse_eq hr]
      rfl
    | event =>
      obtain ⟨e, he, rfl⟩ := eq_of_bind_ok hm
      change (readEvent o'.bytes >>= _) = _
      rw [h.readEvent_eq he]
      rfl

/-! ## A request for the threads -/

def compactMember (key value : String) : Member := ⟨Utf8.encode key, [], [], Utf8.encode value⟩

def compactObject (members : List Member) : Object := ⟨[], members.map (⟨[], ·, []⟩), []⟩

theorem isObject_compactObject {members : List Member} (h : ∀ m ∈ members, m.IsMember) :
    (compactObject members).IsObject where
  before := isBlank_nil
  after := isBlank_nil
  blanks := by
    intro p hp
    obtain ⟨m, -, rfl⟩ := List.mem_map.mp hp
    exact ⟨isBlank_nil, isBlank_nil⟩
  members := by
    intro p hp
    obtain ⟨m, hm, rfl⟩ := List.mem_map.mp hp
    exact h m hm

theorem map_inner_compactObject (members : List Member) :
    (compactObject members).members.map (·.inner) = members := by
  rw [compactObject, List.map_map]
  exact List.map_id members

theorem isMember_compactMember {key value : String}
    (hk : ∀ b ∈ Utf8.encode key, Reader.isPlain b = true)
    (hv : IsValue (Utf8.encode value)) : (compactMember key value).IsMember where
  key := isContents_of_plain hk
  beforeColon := isBlank_nil
  afterColon := isBlank_nil
  value := hv

def threadsMembers : List Member :=
  [compactMember "seq" "1", compactMember "type" "\"request\"",
    compactMember "command" "\"threads\""]

theorem isNumber_one : IsNumber [0x31] :=
  ⟨[], [0x31], [], [], .inl rfl, .inr ⟨⟨by simp, List.forall_mem_singleton.mpr rfl⟩, by decide⟩, .inl rfl,
    .inl rfl, rfl⟩

theorem isMember_threadsMembers : ∀ m ∈ threadsMembers, m.IsMember := by
  have hstring : ∀ name : String, (∀ b ∈ Utf8.encode name, Reader.isPlain b = true) →
      IsValue (0x22 :: (Utf8.encode name ++ [0x22])) :=
    fun name h => .string (isContents_of_plain h)
  intro m hm
  simp only [threadsMembers, List.mem_cons, List.not_mem_nil, or_false] at hm
  obtain rfl | rfl | rfl := hm
  · exact isMember_compactMember (by decide +kernel) (.number isNumber_one)
  · exact isMember_compactMember (by decide +kernel) (hstring "request" (by decide +kernel))
  · exact isMember_compactMember (by decide +kernel) (hstring "threads" (by decide +kernel))

def threadsRequest : Message := .request { seq := 1, command := "threads" }

theorem ofPayload_threadsMembers :
    Message.ofPayload (compactObject threadsMembers).bytes = .ok threadsRequest := by
  have hsome : (Message.ofPayload (compactObject threadsMembers).bytes).toOption =
      some threadsRequest := by
    decide +kernel
  generalize Message.ofPayload (compactObject threadsMembers).bytes = result at hsome ⊢
  cases result with
  | error e => simp [Except.toOption] at hsome
  | ok m => simpa [Except.toOption] using hsome

/-- A member whose value has arrays in it. -/
def nestedMember : Member := compactMember "x" "[[]]"

theorem isMember_nestedMember : nestedMember.IsMember := by
  have hempty : IsValue [0x5B, 0x5D] := .emptyArray isBlank_nil
  have hitems : ∀ p ∈ [(⟨[], [0x5B, 0x5D], []⟩ : Padded Bytes)], p.IsBlank ∧ IsValue p.inner := by
    intro p hp
    obtain rfl := List.mem_singleton.mp hp
    exact ⟨⟨isBlank_nil, isBlank_nil⟩, hempty⟩
  exact isMember_compactMember (by decide +kernel)
    (.array (fun p hp => (hitems p hp).1) fun p hp => (hitems p hp).2)

theorem isForeign_nestedMember : IsForeign .request nestedMember := by
  have hx : Spells nestedMember.key ['x'] :=
    .plain (by decide) (by decide) (by decide) .nil
  exact ⟨"x", hx, by decide⟩

theorem ofPayload_rearranged_threads :
    Message.ofPayload (compactObject threadsMembers).bytes = .ok threadsRequest ∧
      Rearranges .request (compactObject threadsMembers)
        (compactObject (nestedMember :: threadsMembers.reverse)) [nestedMember] ∧
      Message.ofPayload (compactObject (nestedMember :: threadsMembers.reverse)).bytes =
        .ok threadsRequest := by
  have h : Rearranges .request (compactObject threadsMembers)
      (compactObject (nestedMember :: threadsMembers.reverse)) [nestedMember] := {
    isObject := isObject_compactObject isMember_threadsMembers
    isObject' := by
      refine isObject_compactObject (List.forall_mem_cons.mpr ⟨isMember_nestedMember, ?_⟩)
      exact fun m hm => isMember_threadsMembers m (List.mem_reverse.mp hm)
    foreign := by
      intro m hm
      exact List.mem_singleton.mp hm ▸ isForeign_nestedMember
    perm := by
      rw [map_inner_compactObject, map_inner_compactObject]
      exact (threadsMembers.reverse_perm.cons nestedMember).trans
        (List.perm_append_singleton nestedMember threadsMembers).symm }
  exact ⟨ofPayload_threadsMembers, h, ofPayload_rearranged ofPayload_threadsMembers h⟩

/-- A member whose key, `\\ud800`, is half a pair of UTF-16 units. -/
def unpairedMember : Member := ⟨[0x5C, 0x75, 0x64, 0x38, 0x30, 0x30], [], [], [0x31]⟩

theorem isMember_unpairedMember : unpairedMember.IsMember where
  key := by
    have hdigits : Grammar.IsUnit [0x64, 0x38, 0x30, 0x30] := ⟨rfl, by decide +kernel⟩
    exact .unit hdigits .nil
  beforeColon := isBlank_nil
  afterColon := isBlank_nil
  value := .number isNumber_one

theorem not_spells_unpairedMember (cs : List Char) : ¬ Spells unpairedMember.key cs := by
  intro h
  have hread := congrArg Except.toOption (Reader.string_spells h [])
  have hrefused : (Reader.string (unpairedMember.key ++ [0x22])).toOption = none := by
    decide +kernel
  exact absurd (hrefused.symm.trans hread) (by simp [Except.toOption])

/-- Such a member is grammatical and its key is the name of no field, but it is not passed over. -/
theorem not_ofPayload_rearranged_unpaired :
    (compactObject threadsMembers).IsObject ∧
      (compactObject (unpairedMember :: threadsMembers)).IsObject ∧
      (∀ cs, ¬ Spells unpairedMember.key cs) ∧
      Message.ofPayload (compactObject threadsMembers).bytes = .ok threadsRequest ∧
      ∀ m, Message.ofPayload (compactObject (unpairedMember :: threadsMembers)).bytes ≠ .ok m := by
  refine ⟨isObject_compactObject isMember_threadsMembers, ?_, not_spells_unpairedMember,
    ofPayload_threadsMembers, fun m hm => ?_⟩
  · exact isObject_compactObject
      (List.forall_mem_cons.mpr ⟨isMember_unpairedMember, isMember_threadsMembers⟩)
  · have hrefused : (Message.ofPayload
        (compactObject (unpairedMember :: threadsMembers)).bytes).toOption = none := by
      decide +kernel
    rw [hm] at hrefused
    exact nomatch hrefused

end DebugAdapter.Protocol
