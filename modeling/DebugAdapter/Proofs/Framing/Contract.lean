import DebugAdapter.Proofs.Framing.Encoder
import DebugAdapter.Proofs.Protocol.Names

/-! # Which messages an encoder takes

What a message has to say for itself, and the ways in which it may fail to, each with its error.
A message with none of these faults is encoded. Of several faults the one that is looked for first
is reported, and the encoder stays as it was. -/

namespace DebugAdapter.Protocol

open Json

/-! ## The contract -/

namespace Message

/-- The payload of a message has a name. An error body has none in a failed response. -/
inductive Carries : Message → String → Prop
  | request {r : Request} {arguments : RequestArguments} (h : r.arguments = some arguments) :
    Carries (.request r) arguments.name
  | response {r : Response} {body : ResponseBody} (h : r.body = some body)
    (hfailed : ∀ e, body = .error e → r.success = true) : Carries (.response r) body.name
  | event {e : Event} {body : EventBody} (h : e.body = some body) :
    Carries (.event e) body.name

/-- A message that may be sent. -/
structure Conforms (m : Message) : Prop where
  numbered : 0 < m.seq
  correlated : ∀ r, m = .response r → 0 < r.requestSeq
  named : m.declaredName ≠ "" ∨ ∃ p, m.Carries p
  agrees : m.declaredName = "" ∨ ∀ p, m.Carries p → p = m.declaredName

/-- The error for a message without a name. -/
def nameless (m : Message) : Error :=
  match m with
  | .event _ => .missingEvent
  | _ => .missingCommand m.kind

/-- A fault of a message. It may have several. -/
inductive Violates (m : Message) : Error → Prop
  | unnumbered (h : m.seq ≤ 0) : Violates m (.missingSeq m.kind)
  | uncorrelated {r : Response} (hm : m = .response r) (h : r.requestSeq ≤ 0) :
    Violates m .missingRequestSeq
  | unnamed (hdeclared : m.declaredName = "") (h : ∀ p, ¬ m.Carries p) : Violates m m.nameless
  | foreign {p : String} (hdeclared : m.declaredName ≠ "") (hp : m.Carries p)
    (h : p ≠ m.declaredName) : Violates m (.payloadMismatch m.kind m.declaredName p)

/-- The key of the name in the document of a message. -/
def nameKey : Message → String
  | .event _ => "event"
  | _ => "command"

end Message

/-- The place of the faults in the order in which they are looked for. -/
def Error.rank : Error → Nat
  | .missingSeq _ => 0
  | .missingRequestSeq => 1
  | .missingCommand _ | .missingEvent => 2
  | .payloadMismatch _ _ _ => 3
  | _ => 4

theorem ResponseBody.isError_iff {body : ResponseBody} :
    body.isError = true ↔ ∃ e, body = .error e := by
  cases body <;> simp [isError]

theorem resolve_ne_missingCommand {kind kind' : MessageKind} {declared : String}
    {payload : Option String} (h : ¬ (declared = "" ∧ payload = none)) :
    resolve kind declared payload ≠ .error (.missingCommand kind') := by
  unfold resolve
  by_cases hdeclared : declared = ""
  · cases payload with
    | none => exact absurd ⟨hdeclared, rfl⟩ h
    | some name => simp [hdeclared]
  · cases payload with
    | none => simp [hdeclared]
    | some name => by_cases hname : name = declared <;> simp [hdeclared, hname]

namespace Message

variable {m : Message}

/-! ## The name of the payload -/

theorem carries_iff {p : String} : m.Carries p ↔ m.payloadName = some p := by
  constructor
  · intro h
    cases h with
    | request h => rw [payloadName, h]; rfl
    | @response r body h hfailed =>
      have hbody : ¬ (body.isError && !r.success) = true := by
        intro hboth
        rw [Bool.and_eq_true, ResponseBody.isError_iff, Bool.not_eq_true'] at hboth
        obtain ⟨⟨e, he⟩, hsuccess⟩ := hboth
        exact absurd (hfailed e he) (by simp [hsuccess])
      simp only [payloadName, Response.payloadName, h, if_neg hbody]
    | event h => rw [payloadName, h]; rfl
  · intro h
    cases m with
    | request r =>
      obtain ⟨arguments, harguments, rfl⟩ := Option.map_eq_some_iff.mp h
      exact .request harguments
    | response r =>
      simp only [payloadName, Response.payloadName] at h
      cases hbody : r.body with
      | none => simp [hbody] at h
      | some body =>
        rw [hbody] at h
        obtain ⟨hnot, hname⟩ := Option.ite_none_left_eq_some.mp h
        rw [← Option.some.inj hname]
        refine .response hbody ?_
        rintro e rfl
        simpa [ResponseBody.isError] using hnot
    | event e =>
      obtain ⟨body, hbody, rfl⟩ := Option.map_eq_some_iff.mp h
      exact .event hbody

theorem forall_not_carries_iff : (∀ p, ¬ m.Carries p) ↔ m.payloadName = none := by
  simp only [carries_iff, Option.eq_none_iff_forall_ne_some, ne_eq]

/-! ## What is looked for first -/

theorem checkedName_of_unnumbered (h : m.seq ≤ 0) :
    m.checkedName = .error (.missingSeq m.kind) := by
  unfold checkedName
  exact if_pos h

theorem checkedName_of_uncorrelated {r : Response} (hseq : 0 < r.seq) (h : r.requestSeq ≤ 0) :
    (Message.response r).checkedName = .error .missingRequestSeq := by
  unfold checkedName
  exact (if_neg (Int64.not_le.mpr hseq)).trans (if_pos h)

/-- With its numbers set a message has the name that is resolved from the two it may have. -/
theorem checkedName_of_numbered (hseq : 0 < m.seq)
    (hcorrelated : ∀ r, m = .response r → 0 < r.requestSeq) :
    m.checkedName = if m.declaredName = "" ∧ m.payloadName = none then .error m.nameless
      else resolve m.kind m.declaredName m.payloadName := by
  unfold checkedName
  rw [if_neg (Int64.not_le.mpr hseq)]
  by_cases hnone : m.declaredName = "" ∧ m.payloadName = none
  · have hresolve : resolve m.kind m.declaredName m.payloadName =
        .error (.missingCommand m.kind) := by
      rw [hnone.1, hnone.2]
      rfl
    rw [if_pos hnone]
    cases m with
    | request r => exact hresolve
    | response r =>
      exact (if_neg (Int64.not_le.mpr (hcorrelated r rfl))).trans hresolve
    | event e =>
      have hevent : resolve .event e.event (e.body.map (·.name)) = _ := hresolve
      simp only [Event.resolvedEvent, hevent, nameless]
  · rw [if_neg hnone]
    cases m with
    | request r => rfl
    | response r => exact if_neg (Int64.not_le.mpr (hcorrelated r rfl))
    | event e =>
      dsimp only [Event.resolvedEvent]
      split
      · next kind hresolve => exact absurd hresolve (resolve_ne_missingCommand hnone)
      · rfl

theorem rank_nameless (m : Message) : m.nameless.rank = 2 := by
  cases m <;> rfl

section

variable {e : Error} (h : m.Violates e) (hseq : 0 < m.seq)
  (hcorrelated : ∀ r, m = .response r → 0 < r.requestSeq)
include h hseq

theorem Violates.one_le_rank : 1 ≤ e.rank := by
  cases h with
  | unnumbered h => exact absurd h (Int64.not_le.mpr hseq)
  | uncorrelated hm h => exact Nat.le_refl 1
  | unnamed hdeclared h => simp [rank_nameless]
  | foreign hdeclared hp h => exact Nat.le_add_left 1 2

include hcorrelated

theorem Violates.two_le_rank : 2 ≤ e.rank := by
  cases h with
  | unnumbered h => exact absurd h (Int64.not_le.mpr hseq)
  | uncorrelated hm h => exact absurd h (Int64.not_le.mpr (hcorrelated _ hm))
  | unnamed hdeclared h => simp [rank_nameless]
  | foreign hdeclared hp h => exact Nat.le_add_left 2 1

theorem Violates.three_le_rank (hdeclared : m.declaredName ≠ "") : 3 ≤ e.rank := by
  cases h with
  | unnumbered h => exact absurd h (Int64.not_le.mpr hseq)
  | uncorrelated hm h => exact absurd h (Int64.not_le.mpr (hcorrelated _ hm))
  | unnamed hdeclared' h => exact absurd hdeclared' hdeclared
  | foreign hdeclared hp h => exact Nat.le_refl 3

end

/-- A message that conforms has its name, and one that does not is reported for its first fault. -/
theorem checkedName_spec (m : Message) :
    m.Conforms ∧ m.checkedName = .ok m.resolvedName ∨
      ∃ e, m.checkedName = .error e ∧ m.Violates e ∧ ∀ e', m.Violates e' → e.rank ≤ e'.rank := by
  by_cases hunnumbered : m.seq ≤ 0
  · exact .inr ⟨_, checkedName_of_unnumbered hunnumbered, .unnumbered hunnumbered,
      fun e' _ => Nat.zero_le _⟩
  have hseq : 0 < m.seq := Int64.not_le.mp hunnumbered
  by_cases huncorrelated : ∃ r, m = .response r ∧ r.requestSeq ≤ 0
  · obtain ⟨r, rfl, hrequest⟩ := huncorrelated
    exact .inr ⟨_, checkedName_of_uncorrelated hseq hrequest, .uncorrelated rfl hrequest,
      fun e' he' => he'.one_le_rank hseq⟩
  have hcorrelated : ∀ r, m = .response r → 0 < r.requestSeq := by
    intro r hr
    exact Int64.not_le.mp fun h => huncorrelated ⟨r, hr, h⟩
  rw [checkedName_of_numbered hseq hcorrelated]
  by_cases hnone : m.declaredName = "" ∧ m.payloadName = none
  · refine .inr ⟨_, if_pos hnone, .unnamed hnone.1 (forall_not_carries_iff.mpr hnone.2), ?_⟩
    intro e' he'
    rw [rank_nameless]
    exact he'.two_le_rank hseq hcorrelated
  rw [if_neg hnone]
  by_cases hdeclared : m.declaredName = ""
  · cases hpayload : m.payloadName with
    | none => exact absurd ⟨hdeclared, hpayload⟩ hnone
    | some p =>
      refine .inl ⟨⟨hseq, hcorrelated, .inr ⟨p, carries_iff.mpr hpayload⟩, .inl hdeclared⟩, ?_⟩
      rw [resolvedName, resolve, hdeclared, hpayload]
      rfl
  by_cases hagree : ∀ p ∈ m.payloadName, p = m.declaredName
  · refine .inl ⟨⟨hseq, hcorrelated, .inl hdeclared, .inr ?_⟩, ?_⟩
    · intro p hp
      exact hagree p (carries_iff.mp hp)
    · rw [resolvedName, if_neg hdeclared, resolve_of_agree hdeclared hagree]
  · obtain ⟨p, hp, hne⟩ : ∃ p, m.payloadName = some p ∧ p ≠ m.declaredName := by
      simpa using hagree
    refine .inr ⟨.payloadMismatch m.kind m.declaredName p, ?_,
      .foreign hdeclared (carries_iff.mpr hp) hne,
      fun e' he' => he'.three_le_rank hseq hcorrelated hdeclared⟩
    unfold resolve
    rw [if_neg hdeclared, hp]
    exact if_neg hne

theorem Conforms.not_violates (hm : m.Conforms) (e : Error) : ¬ m.Violates e := by
  intro h
  cases h with
  | unnumbered h => exact absurd h (Int64.not_le.mpr hm.numbered)
  | uncorrelated hr h => exact absurd h (Int64.not_le.mpr (hm.correlated _ hr))
  | unnamed hdeclared h =>
    obtain ⟨p, hp⟩ := hm.named.resolve_left (fun hne => hne hdeclared)
    exact h p hp
  | foreign hdeclared hp h => exact h (hm.agrees.resolve_left hdeclared _ hp)

/-- A message has one fault of each rank at most. -/
theorem Violates.eq_of_rank {e e' : Error} (h : m.Violates e) (h' : m.Violates e')
    (hrank : e.rank = e'.rank) : e = e' := by
  have hnameless := rank_nameless m
  cases h <;> cases h' <;> simp_all [Error.rank, carries_iff]

/-! ## The bytes -/

/-- A message that conforms is printed under its name, and one that does not has a first fault. -/
theorem toPayload_spec (m : Message) :
    m.Conforms ∧ m.toPayload = .ok (Printer.value (m.document m.resolvedName)) ∨
      ∃ e, m.toPayload = .error e ∧ m.Violates e ∧ ∀ e', m.Violates e' → e.rank ≤ e'.rank := by
  rcases m.checkedName_spec with ⟨hm, hname⟩ | ⟨e, hname, hviolates⟩
  · exact .inl ⟨hm, by rw [toPayload, hname]; rfl⟩
  · exact .inr ⟨e, by rw [toPayload, hname]; rfl, hviolates⟩

theorem exists_toPayload_iff : (∃ payload, m.toPayload = .ok payload) ↔ m.Conforms := by
  rcases m.toPayload_spec with ⟨hm, hpayload⟩ | ⟨e, herror, hviolates, -⟩
  · exact ⟨fun _ => hm, fun _ => ⟨_, hpayload⟩⟩
  · refine ⟨fun ⟨payload, hpayload⟩ => ?_, fun hm => absurd hviolates (hm.not_violates e)⟩
    exact nomatch herror.symm.trans hpayload

/-- The error is the fault that is looked for first. -/
theorem toPayload_eq_error_iff {e : Error} :
    m.toPayload = .error e ↔ m.Violates e ∧ ∀ e', m.Violates e' → e.rank ≤ e'.rank := by
  rcases m.toPayload_spec with ⟨hm, hpayload⟩ | ⟨first, herror, hviolates, hfirst⟩
  · refine ⟨fun herror => ?_, fun h => absurd h.1 (hm.not_violates e)⟩
    exact nomatch herror.symm.trans hpayload
  · rw [herror, Except.error.injEq]
    constructor
    · rintro rfl
      exact ⟨hviolates, hfirst⟩
    · rintro ⟨he, hle⟩
      exact hviolates.eq_of_rank he (Nat.le_antisymm (hfirst e he) (hle first hviolates))

/-- The document of a message has its name, and no other, under the key for names. -/
theorem mem_document (name : String) (m : Message) : ∃ members,
    m.document name = .object members ∧ ∀ v, (m.nameKey, v) ∈ members ↔ v = .string name := by
  cases m with
  | request | response | event =>
    refine ⟨_, rfl, fun v => ?_⟩
    simp [heading, nameKey]

/-- The name of a message that conforms is the one declared, or else the one of its payload. -/
theorem Conforms.resolvedName_spec (hm : m.Conforms) :
    (m.declaredName ≠ "" → m.resolvedName = m.declaredName) ∧
      (m.declaredName = "" → m.Carries m.resolvedName) := by
  constructor
  · intro hdeclared
    rw [resolvedName, if_neg hdeclared]
  · intro hdeclared
    obtain ⟨p, hp⟩ := hm.named.resolve_left fun hne => hne hdeclared
    rw [resolvedName, if_pos hdeclared, carries_iff.mp hp]
    exact hp

end Message

end DebugAdapter.Protocol

/-! ## The encoder -/

namespace DebugAdapter.Framing.Encoder

open Protocol

/-- Encodes messages one after the other, whatever becomes of each. -/
def encodeAll : List Message → Encoder → List (Except Error Unit) × Encoder
  | [], e => ([], e)
  | m :: rest, e =>
    let (result, e) := e.encode m
    let (results, e) := encodeAll rest e
    (result :: results, e)

theorem length_encodeAll (messages : List Message) (e : Encoder) :
    (encodeAll messages e).1.length = messages.length := by
  induction messages generalizing e with
  | nil => rfl
  | cons m rest ih => simp [encodeAll, ih]

theorem encodeAll_append (before after : List Message) (e : Encoder) :
    encodeAll (before ++ after) e =
      ((encodeAll before e).1 ++ (encodeAll after (encodeAll before e).2).1,
        (encodeAll after (encodeAll before e).2).2) := by
  induction before generalizing e with
  | nil => rfl
  | cons m before ih => simp [encodeAll, ih]

theorem encode_of_error {m : Message} {error : Error} (h : m.toPayload = .error error)
    (e : Encoder) : e.encode m = (.error error, e) := by
  rw [encode, h]

/-- A message is written as one frame of its payload, if the sink takes it, and a message that is
reported as written is on the wire as that frame. -/
theorem encode_of_ok {m : Message} {payload : Bytes} (h : m.toPayload = .ok payload) (e : Encoder) :
    (e.sink.Accepts → (e.encode m).1 = .ok ()) ∧
      ((e.encode m).1 = .ok () → (e.encode m).2.sink.bytes = e.sink.bytes ++ frame payload) := by
  have hencode : e.encode m =
      ((e.writeFrame payload).1.mapError .io, (e.writeFrame payload).2) := by rw [encode, h]
  rw [hencode]
  constructor
  · intro haccepts
    obtain ⟨e', hwrite, -⟩ := writeFrame_of_accepts payload haccepts
    rw [hwrite]
    rfl
  · intro hok
    cases hwrite : e.writeFrame payload with
    | mk result e' =>
      rw [hwrite] at hok
      cases result with
      | ok => exact writeFrame_of_ok hwrite
      | error => exact nomatch hok

/-- A message that is refused leaves everything that is encoded after it as it would be. -/
theorem encodeAll_of_error {m : Message} {error : Error} (h : m.toPayload = .error error)
    (before after : List Message) (e : Encoder) :
    ∃ first last left, first.length = before.length ∧
      encodeAll (before ++ after) e = (first ++ last, left) ∧
      encodeAll (before ++ m :: after) e = (first ++ .error error :: last, left) := by
  refine ⟨_, _, _, length_encodeAll before e, encodeAll_append before after e, ?_⟩
  rw [encodeAll_append, encodeAll, encode_of_error h]

/-- The contract of a message, of its errors and of what is left of it on the wire. -/
theorem encode_contract (m : Message) :
    ((∃ payload, m.toPayload = .ok payload) ↔ m.Conforms) ∧
      (∀ payload, m.toPayload = .ok payload →
        ∃ name members, payload = Json.Printer.value (.object members) ∧
          (∀ v, (m.nameKey, v) ∈ members ↔ v = .string name) ∧
          (m.declaredName ≠ "" → name = m.declaredName) ∧
          (m.declaredName = "" → m.Carries name) ∧
          ∀ e : Encoder, (e.sink.Accepts → (e.encode m).1 = .ok ()) ∧
            ((e.encode m).1 = .ok () →
              (e.encode m).2.sink.bytes = e.sink.bytes ++ frame payload)) ∧
      (∀ error, m.toPayload = .error error ↔
        m.Violates error ∧ ∀ error', m.Violates error' → error.rank ≤ error'.rank) ∧
      ∀ error, m.toPayload = .error error → ∀ e : Encoder, e.encode m = (.error error, e) ∧
        ∀ before after, ∃ first last left, first.length = before.length ∧
          encodeAll (before ++ after) e = (first ++ last, left) ∧
          encodeAll (before ++ m :: after) e = (first ++ .error error :: last, left) := by
  refine ⟨Message.exists_toPayload_iff, ?_, fun _ => Message.toPayload_eq_error_iff, ?_⟩
  · intro payload hpayload
    obtain ⟨hdeclared, hcarries⟩ :=
      (Message.exists_toPayload_iff.mp ⟨payload, hpayload⟩).resolvedName_spec
    obtain ⟨members, hmembers, hname⟩ := Message.mem_document m.resolvedName m
    refine ⟨_, members, ?_, hname, hdeclared, hcarries, encode_of_ok hpayload⟩
    rw [(Message.toPayload_ok hpayload).2.2, hmembers]
  · intro error herror e
    exact ⟨encode_of_error herror e, fun before after => encodeAll_of_error herror before after e⟩

/-- An error body in a response that succeeded, without the number of its request. -/
def stray : Message :=
  .response { seq := 3, success := true, command := "launch", body := some (.error {}) }

/-- An event that leaves its name to its body. -/
def unlabelled : Message := .event { seq := 1, body := some (.terminated {}) }

theorem encode_contract_stray :
    (stray.Violates (.payloadMismatch .response "launch" "error") ∧
      stray.toPayload = .error .missingRequestSeq ∧
      ∀ e : Encoder, e.encode stray = (.error .missingRequestSeq, e)) ∧
      ∃ members, unlabelled.toPayload = .ok (Json.Printer.value (.object members)) ∧
        ("event", .string "terminated") ∈ members := by
  constructor
  · have hforeign : stray.Violates (.payloadMismatch .response "launch" "error") :=
      .foreign (by decide) (Message.carries_iff.mpr rfl) (by decide)
    have hfirst : stray.Violates .missingRequestSeq := .uncorrelated rfl (by decide)
    obtain ⟨-, -, herror, hencode⟩ := encode_contract stray
    have hrefused : stray.toPayload = .error .missingRequestSeq := by
      rw [herror]
      exact ⟨hfirst, fun error' h => h.one_le_rank (by decide)⟩
    exact ⟨hforeign, hrefused, fun e => (hencode _ hrefused e).1⟩
  · have hcarries : unlabelled.Carries "terminated" := Message.carries_iff.mpr rfl
    have hconforms : unlabelled.Conforms :=
      ⟨by decide, by rintro r ⟨⟩, .inr ⟨_, hcarries⟩, .inl rfl⟩
    obtain ⟨hok, hname, -⟩ := encode_contract unlabelled
    obtain ⟨payload, hpayload⟩ := hok.mpr hconforms
    obtain ⟨name, members, rfl, hmem, -, hbody, -⟩ := hname payload hpayload
    refine ⟨members, hpayload, ?_⟩
    have heq : name = "terminated" :=
      Option.some.inj ((Message.carries_iff.mp (hbody rfl)).symm.trans rfl)
    exact (hmem _).mpr (by rw [heq])

end DebugAdapter.Framing.Encoder
