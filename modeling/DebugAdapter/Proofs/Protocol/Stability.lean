import DebugAdapter.Proofs.Json.Nesting
import DebugAdapter.Proofs.Protocol.RoundTrip

/-! # What is read can be written

However a message was spelled, what was read of it is consistent: the payload is the one that its name
stands for, free-form data fits beside its fields, and nothing is nested deeper than a reader allows. So a
message that was read may be sent unless a number or a name is missing, and written once more it stays
what it is. -/

namespace DebugAdapter.Protocol

open Json

/-! ## Nesting of typed data -/

@[simp] theorem OutputCategory.isShallow_toValue (n : Nat) (c : OutputCategory) :
    c.toValue.isShallow n = true :=
  Value.isShallow_string n c.name

instance : ShallowRecord 0 Thread where
instance : ShallowRecord 0 Source where
instance : ShallowRecord 1 StackFrame where
instance : ShallowRecord 0 Scope where
instance : ShallowRecord 0 Variable where
instance : ShallowRecord 0 ErrorMessage where

instance : ShallowRecord 0 InitializeArguments where
instance : ShallowRecord 0 TerminateArguments where
instance : ShallowRecord 0 DisconnectArguments where
instance : ShallowRecord 0 StackTraceArguments where
instance : ShallowRecord 0 ScopesArguments where
instance : ShallowRecord 0 VariablesArguments where
instance : ShallowRecord 0 ContinueArguments where

instance : ShallowRecord 0 Capabilities where
instance : ShallowRecord 2 ThreadsBody where
instance : ShallowRecord 3 StackTraceBody where
instance : ShallowRecord 2 ScopesBody where
instance : ShallowRecord 2 VariablesBody where
instance : ShallowRecord 0 ContinueBody where
instance : ShallowRecord 1 ErrorBody where

instance : ShallowRecord 0 OutputBody where
instance : ShallowRecord 0 StoppedBody where
instance : ShallowRecord 0 ContinuedBody where
instance : ShallowRecord 0 ExitedBody where
instance : ShallowRecord 0 ThreadBody where

/-- Typed data is nested far less deep than the limit. -/
theorem depth_toValue_le_fieldLimit {α : Type} [Record α] {n : Nat} [ShallowRecord n α]
    (hn : n < fieldLimit) (a : α) : (Record.toValue a).depth ≤ fieldLimit :=
  Nat.le_trans (Record.depth_toValue_le a) hn

/-! ## Free-form data -/

/-- The free-form data of a launch fits beside its own field and inside its object. -/
def LaunchArguments.Fits (a : LaunchArguments) : Prop :=
  ∀ m ∈ a.additional.members, m.1 ≠ noDebugKey ∧ m.2.depth < fieldLimit

theorem LaunchArguments.fits_of_ofValue? {v : Value} {a : LaunchArguments} (h : ofValue? v = some a)
    (hdepth : v.depth ≤ fieldLimit) : a.Fits := by
  cases v with
  | null | bool | number | string | array => exact nomatch h
  | object members =>
    obtain ⟨noDebug, -, ha⟩ := Option.bind_eq_some_iff.mp h
    obtain rfl := Option.some.inj ha
    refine Value.forall_mem_canonicalMembers (by simp) fun m hm => ?_
    obtain ⟨hmem, hkey⟩ := List.mem_filter.mp hm
    refine ⟨bne_iff_ne.mp hkey, ?_⟩
    have hinside := (Value.depthMembers_le members).mp (Nat.le_refl _) m hmem
    rw [Value.depth] at hdepth
    have hcanonical := m.2.depth_canonical_le
    dsimp only
    omega

theorem LaunchArguments.depth_toValue_le {a : LaunchArguments} (h : a.Fits) :
    a.toValue.depth ≤ fieldLimit := by
  refine Nat.succ_le_succ ((Value.depthMembers_le _).mpr fun m hm => ?_)
  rcases List.mem_append.mp hm with hm | hm
  · obtain ⟨b, -, rfl⟩ := Option.map_eq_some_iff.mp (Option.mem_toList.mp hm)
    exact Nat.zero_le _
  · exact Nat.le_pred_of_lt (h m hm).2

/-- The free-form data of a termination is not `null` and fits inside its object. -/
def TerminatedBody.Fits (b : TerminatedBody) : Prop :=
  ∀ data ∈ b.restart, data.value ≠ .null ∧ data.value.depth < fieldLimit

theorem TerminatedBody.fits_of_ofValue? {v : Value} {b : TerminatedBody}
    (h : Record.ofValue? v = some b) (hdepth : v.depth ≤ fieldLimit) : b.Fits := by
  obtain ⟨fields, hread, hinside⟩ := Record.exists_fields_of_ofValue? h
  intro data hdata
  match fields, hread with
  | [restart], hread =>
    obtain rfl := Option.some.inj hread
    obtain ⟨w, rfl, rfl⟩ := Option.map_eq_some_iff.mp hdata
    obtain ⟨inner, hpresent, hlt⟩ := hinside w List.mem_cons_self
    have hne : inner ≠ .null := by
      rintro rfl
      exact nomatch hpresent
    rw [Record.present_of_ne_null hne] at hpresent
    obtain rfl := Option.some.inj hpresent
    have hcanonical := inner.depth_canonical_le
    exact ⟨Value.canonical_ne_null hne, by simp only [FreeForm.ofValue]; omega⟩

theorem TerminatedBody.depth_toValue_le {b : TerminatedBody} (h : b.Fits) :
    (Record.toValue b).depth ≤ fieldLimit := by
  have hfields : ∀ v, some v ∈ Record.fields b → v.depth ≤ fieldLimit - 1 := by
    intro v hv
    obtain ⟨data, hdata, rfl⟩ := Option.map_eq_some_iff.mp (List.mem_singleton.mp hv).symm
    exact Nat.le_pred_of_lt (h data hdata).2
  exact Record.depth_toValue_of_fields hfields

/-! ## Payloads that were read -/

/-- What the entry of a name ensures, the table ensures. -/
theorem PayloadTable.decode_ensures {α : Type} {table : PayloadTable α} {unknown : String → Error}
    {name : String} {v : Value} {post : α → Prop}
    (h : ∀ read, (name, read) ∈ table → ∀ a, read v = some a → post a) :
    Ensures (table.decode unknown name v) post := by
  unfold decode
  split
  · exact .error _
  · rename_i read hlookup
    obtain ⟨before, after, rfl, -⟩ := List.lookup_eq_some_iff.mp hlookup
    split
    · rename_i a hread
      exact .ok (h read (by simp) a hread)
    · exact .error _

namespace RequestArguments

/-- The free-form data of arguments fits in. -/
def Fits : RequestArguments → Prop
  | launch a => a.Fits
  | _ => True

/-- The entries of the table read arguments of their own command. -/
theorem decode_ensures (name : String) {v : Value} (hdepth : v.depth ≤ fieldLimit) :
    Ensures (decode name v) fun a => a.name = name ∧ a.Fits := by
  apply PayloadTable.decode_ensures
  intro read hmem a hread
  simp only [table, List.mem_cons, Prod.mk.injEq, List.not_mem_nil, or_false] at hmem
  rcases hmem with ⟨rfl, rfl⟩ | ⟨rfl, rfl⟩ | ⟨rfl, rfl⟩ | ⟨rfl, rfl⟩ | ⟨rfl, rfl⟩ | ⟨rfl, rfl⟩ |
      ⟨rfl, rfl⟩ | ⟨rfl, rfl⟩ | ⟨rfl, rfl⟩ | ⟨rfl, rfl⟩ <;>
    obtain ⟨arguments, hvalue, rfl⟩ := Option.map_eq_some_iff.mp hread
  case inr.inl => exact ⟨rfl, LaunchArguments.fits_of_ofValue? hvalue hdepth⟩
  all_goals exact ⟨rfl, True.intro⟩

theorem depth_toValue_le {a : RequestArguments} (h : a.Fits) : a.toValue.depth ≤ fieldLimit := by
  cases a with
  | launch a => exact LaunchArguments.depth_toValue_le h
  | configurationDone | threads => decide
  | initialization | terminate | disconnect | stackTrace | scopes | variableList | resume =>
    exact depth_toValue_le_fieldLimit (by decide) _

end RequestArguments

namespace ResponseBody

/-- The entries of the table read bodies of their own name. -/
theorem decode_ensures (name : String) (v : Value) : Ensures (decode name v) (·.name = name) := by
  apply PayloadTable.decode_ensures
  intro read hmem b hread
  simp only [table, List.mem_cons, Prod.mk.injEq, List.not_mem_nil, or_false] at hmem
  rcases hmem with ⟨rfl, rfl⟩ | ⟨rfl, rfl⟩ | ⟨rfl, rfl⟩ | ⟨rfl, rfl⟩ | ⟨rfl, rfl⟩ | ⟨rfl, rfl⟩ |
      ⟨rfl, rfl⟩ <;>
    obtain ⟨body, -, rfl⟩ := Option.map_eq_some_iff.mp hread <;> rfl

theorem isError_of_name {b : ResponseBody} (h : b.name = "error") : b.isError = true := by
  cases b with
  | error body => rfl
  | capabilities | threads | stackTrace | scopes | variableList | resumed => simp [name] at h

theorem depth_toValue_le (b : ResponseBody) : b.toValue.depth ≤ fieldLimit := by
  cases b <;> exact depth_toValue_le_fieldLimit (by decide) _

end ResponseBody

namespace EventBody

/-- The free-form data of a body fits in. -/
def Fits : EventBody → Prop
  | terminated b => b.Fits
  | _ => True

/-- The entries of the table read bodies of their own event. -/
theorem decode_ensures (name : String) {v : Value} (hdepth : v.depth ≤ fieldLimit) :
    Ensures (decode name v) fun b => b.name = name ∧ b.Fits := by
  apply PayloadTable.decode_ensures
  intro read hmem b hread
  simp only [table, List.mem_cons, Prod.mk.injEq, List.not_mem_nil, or_false] at hmem
  rcases hmem with ⟨rfl, rfl⟩ | ⟨rfl, rfl⟩ | ⟨rfl, rfl⟩ | ⟨rfl, rfl⟩ | ⟨rfl, rfl⟩ | ⟨rfl, rfl⟩ <;>
    obtain ⟨body, hvalue, rfl⟩ := Option.map_eq_some_iff.mp hread
  case inr.inr.inr.inr.inl => exact ⟨rfl, TerminatedBody.fits_of_ofValue? hvalue hdepth⟩
  all_goals exact ⟨rfl, True.intro⟩

theorem depth_toValue_le {b : EventBody} (h : b.Fits) : b.toValue.depth ≤ fieldLimit := by
  cases b with
  | terminated b => exact TerminatedBody.depth_toValue_le h
  | output | stopped | continued | exited | thread =>
    exact depth_toValue_le_fieldLimit (by decide) _

end EventBody

/-! ## Messages that were read -/

theorem liftJson_ensures {α : Type} {x : Except Json.Error α} {post : α → Prop} (h : Ensures x post) :
    Ensures (liftJson x) post := by
  cases x with
  | error e => exact .error _
  | ok a => exact .ok (h a rfl)

theorem decodeOptional_ensures {α : Type} {decode : Value → Except Error α} {field : Option Value}
    {post : α → Prop} (h : ∀ v ∈ field, Ensures (decode v) post) :
    Ensures (decodeOptional decode field) fun payload => ∀ a ∈ payload, post a := by
  cases field with
  | none => exact .ok (by simp)
  | some v =>
    have hv := h v rfl
    rw [decodeOptional]
    cases hdecode : decode v with
    | error e => exact .error _
    | ok a => exact .ok (by simpa using hv a hdecode)

theorem readRequest_ensures (payload : Bytes) :
    Ensures (readRequest payload) fun r => ∀ a ∈ r.arguments, a.name = r.command ∧ a.Fits := by
  refine (liftJson_ensures (Fields.ofBytes_ensures requestFields payload)).bind fun fields hfields => ?_
  refine Ensures.trivial.bind fun seq _ => Ensures.trivial.bind fun command _ => ?_
  have harguments : ∀ v ∈ fields.value? "arguments",
      Ensures (RequestArguments.decode command v) fun a => a.name = command ∧ a.Fits :=
    fun v hv => RequestArguments.decode_ensures command (hfields.value? hv)
  exact (decodeOptional_ensures harguments).bind fun arguments h => .ok h

theorem readResponse_ensures (payload : Bytes) :
    Ensures (readResponse payload) fun r =>
      ∀ b ∈ r.body, b.name = if r.success then r.command else "error" := by
  refine Ensures.trivial.bind fun fields _ => Ensures.trivial.bind fun seq _ => ?_
  refine Ensures.trivial.bind fun requestSeq _ => Ensures.trivial.bind fun success _ => ?_
  refine Ensures.trivial.bind fun command _ => ?_
  have hbody : ∀ v ∈ fields.value? "body", Ensures (ResponseBody.decodeFor command success v)
      (·.name = if success then command else "error") :=
    fun v _ => ResponseBody.decode_ensures _ v
  exact (decodeOptional_ensures hbody).bind fun body h => .ok h

theorem readEvent_ensures (payload : Bytes) :
    Ensures (readEvent payload) fun e => ∀ b ∈ e.body, b.name = e.event ∧ b.Fits := by
  refine (liftJson_ensures (Fields.ofBytes_ensures eventFields payload)).bind fun fields hfields => ?_
  refine Ensures.trivial.bind fun seq _ => Ensures.trivial.bind fun event _ => ?_
  have hbody : ∀ v ∈ fields.value? "body",
      Ensures (EventBody.decode event v) fun b => b.name = event ∧ b.Fits :=
    fun v hv => EventBody.decode_ensures event (hfields.value? hv)
  exact (decodeOptional_ensures hbody).bind fun body h => .ok h

/-! ## Consistent messages -/

def RequestArguments.freeForm : RequestArguments → List Value
  | launch a => a.additional.members.map (·.2)
  | _ => []

def EventBody.freeForm : EventBody → List Value
  | terminated b => (b.restart.map (·.value)).toList
  | _ => []

namespace Message

/-- The free-form data of a message. -/
def freeForm : Message → List Value
  | .request r => r.arguments.toList.flatMap (·.freeForm)
  | .response _ => []
  | .event e => e.body.toList.flatMap (·.freeForm)

/-- The payload of a message, as it is written. -/
def payloadValue : Message → Option Value
  | .request r => r.arguments.map (·.toValue)
  | .response r => r.body.map (·.toValue)
  | .event e => e.body.map (·.toValue)

theorem depth_document_le {m : Message} (h : ∀ v ∈ m.payloadValue, v.depth ≤ fieldLimit)
    (name : String) : (m.document name).depth ≤ Reader.nestingLimit := by
  have hlimit : fieldLimit + 1 = Reader.nestingLimit := rfl
  rcases m with ⟨seq, command, _ | a⟩ | ⟨seq, requestSeq, success, command, _ | text, _ | b⟩ |
      ⟨seq, event, _ | b⟩ <;>
    simp [document, heading, payloadValue, Value.depth, Value.depthMembers, Value.int64] at h ⊢ <;>
    omega

/-- What a message that was read has in common with every other: the payload is the one of its name, and
but for numbers that are no integers the message is written without loss. -/
structure Consistent (m : Message) : Prop where
  agree : ∀ p ∈ m.payloadName, p = m.declaredName
  carried : (∀ v ∈ m.freeForm, v.isIntegral = true) → m.isCarried = true
  depth_le : ∀ name, (m.document name).depth ≤ Reader.nestingLimit

theorem consistent_request {r : Request} (h : ∀ a ∈ r.arguments, a.name = r.command ∧ a.Fits) :
    (Message.request r).Consistent where
  agree p hp := by
    obtain ⟨a, ha, rfl⟩ := Option.map_eq_some_iff.mp hp
    exact (h a ha).1
  carried hintegral := by
    obtain ⟨seq, command, _ | a⟩ := r
    · rfl
    · obtain ⟨-, hfits⟩ := h a rfl
      cases a with
      | launch a =>
        refine List.all_eq_true.mpr fun m hm => ?_
        have hvalue : m.2.isIntegral = true := hintegral m.2 (by
          simpa [freeForm, RequestArguments.freeForm] using ⟨m.1, hm⟩)
        simp [(hfits m hm).1, hvalue]
      | _ => rfl
  depth_le := by
    apply depth_document_le
    intro v hv
    obtain ⟨a, ha, rfl⟩ := Option.map_eq_some_iff.mp hv
    exact RequestArguments.depth_toValue_le (h a ha).2

theorem consistent_response {r : Response}
    (h : ∀ b ∈ r.body, b.name = if r.success then r.command else "error") :
    (Message.response r).Consistent where
  agree p hp := by
    obtain ⟨seq, requestSeq, success, command, message, _ | b⟩ := r
    · exact nomatch hp
    · have hname := h b rfl
      cases success with
      | true =>
        obtain rfl : b.name = p := by simpa [payloadName, Response.payloadName] using hp
        exact hname
      | false =>
        have herror := ResponseBody.isError_of_name hname
        simp [payloadName, Response.payloadName, herror] at hp
  carried _ := by
    obtain ⟨seq, requestSeq, success, command, message, _ | b⟩ := r
    · simp [isCarried]
    · have hname := h b rfl
      cases success with
      | true => rfl
      | false => exact ResponseBody.isError_of_name hname
  depth_le := by
    apply depth_document_le
    intro v hv
    obtain ⟨b, -, rfl⟩ := Option.map_eq_some_iff.mp hv
    exact b.depth_toValue_le

theorem consistent_event {e : Event} (h : ∀ b ∈ e.body, b.name = e.event ∧ b.Fits) :
    (Message.event e).Consistent where
  agree p hp := by
    obtain ⟨b, hb, rfl⟩ := Option.map_eq_some_iff.mp hp
    exact (h b hb).1
  carried hintegral := by
    obtain ⟨seq, event, _ | b⟩ := e
    · rfl
    · obtain ⟨-, hfits⟩ := h b rfl
      cases b with
      | terminated b =>
        obtain ⟨_ | data⟩ := b
        · rfl
        · have hvalue : data.value.isIntegral = true := hintegral data.value (by
            simp [freeForm, EventBody.freeForm])
          simp [isCarried, EventBody.isCarried, TerminatedBody.isCarried, Value.isPlain, hvalue,
            (hfits data rfl).1]
      | _ => rfl
  depth_le := by
    apply depth_document_le
    intro v hv
    obtain ⟨b, hb, rfl⟩ := Option.map_eq_some_iff.mp hv
    exact EventBody.depth_toValue_le (h b hb).2

/-- However a message was spelled, what was read of it is consistent. -/
theorem ofPayload_ensures (payload : Bytes) : Ensures (ofPayload payload) Consistent := by
  refine Ensures.trivial.bind fun kind _ => ?_
  cases kind with
  | request => exact (readRequest_ensures payload).bind fun r h => .ok (consistent_request h)
  | response => exact (readResponse_ensures payload).bind fun r h => .ok (consistent_response h)
  | event => exact (readEvent_ensures payload).bind fun e h => .ok (consistent_event h)

/-! ## Consistent messages are sent -/

/-- A response that belongs to no request. -/
def isStray : Message → Bool
  | .response r => r.requestSeq ≤ 0
  | _ => false

/-- The error for a message without a name. -/
def nameError : Message → Error
  | .event _ => .missingEvent
  | m => .missingCommand m.kind

variable {m : Message}

theorem Consistent.resolve_eq (h : m.Consistent) :
    resolve m.kind m.declaredName m.payloadName =
      if m.declaredName = "" then .error (.missingCommand m.kind) else .ok m.declaredName := by
  by_cases hname : m.declaredName = ""
  · cases hpayload : m.payloadName with
    | none => simp [resolve, hname]
    | some p => exact absurd ((h.agree p hpayload).trans hname) (m.payloadName_ne p hpayload)
  · rw [resolve_of_agree hname h.agree, if_neg hname]

/-- A consistent message may be sent unless a number or the name is missing. -/
theorem Consistent.checkedName_eq (h : m.Consistent) :
    m.checkedName =
      if m.seq ≤ 0 then .error (.missingSeq m.kind)
      else if m.isStray then .error .missingRequestSeq
      else if m.declaredName = "" then .error m.nameError
      else .ok m.declaredName := by
  have hresolve := h.resolve_eq
  unfold checkedName
  cases m with
  | request r =>
    have hname : r.resolvedCommand = _ := hresolve
    simp only [hname, isStray, nameError, Bool.false_eq_true, if_false]
  | response r =>
    have hname : r.resolvedCommand = _ := hresolve
    simp only [hname, isStray, nameError, decide_eq_true_eq]
  | event e =>
    have hname : e.resolvedEvent =
        if (event e).declaredName = "" then .error .missingEvent else .ok (event e).declaredName := by
      have hevent : resolve .event e.event (e.body.map (·.name)) = _ := hresolve
      rw [Event.resolvedEvent, hevent]
      by_cases hnone : (event e).declaredName = "" <;> simp [hnone, kind]
    simp only [hname, isStray, nameError, Bool.false_eq_true, if_false]

theorem Consistent.exists_toPayload_iff (h : m.Consistent) :
    (∃ payload, m.toPayload = .ok payload) ↔
      0 < m.seq ∧ m.declaredName ≠ "" ∧ ∀ r, m = .response r → 0 < r.requestSeq := by
  have hstray : m.isStray = false ↔ ∀ r, m = .response r → 0 < r.requestSeq := by
    cases m <;> simp [isStray]
  rw [← hstray, ← Int64.not_le]
  have hchecked := h.checkedName_eq
  constructor
  · rintro ⟨payload, hsend⟩
    cases hname : m.checkedName with
    | error e => simp [toPayload, hname, bind, Except.bind] at hsend
    | ok name =>
      rw [hname] at hchecked
      split at hchecked
      · simp at hchecked
      · split at hchecked
        · simp at hchecked
        · split at hchecked
          · simp at hchecked
          · simp_all
  · rintro ⟨hseq, hnamed, hcorrelated⟩
    rw [if_neg hseq, hcorrelated, if_neg Bool.false_ne_true, if_neg hnamed] at hchecked
    exact toPayload_of_checkedName hchecked

/-- The payload of a consistent message never belongs to another name. -/
theorem Consistent.toPayload_ne (h : m.Consistent) (kind : MessageKind) (declared payload : String) :
    m.toPayload ≠ .error (.payloadMismatch kind declared payload) := by
  intro hsend
  have hchecked := h.checkedName_eq
  cases hname : m.checkedName with
  | ok name => simp [toPayload, hname, bind, Except.bind] at hsend
  | error e =>
    have he : e = .payloadMismatch kind declared payload := by
      simpa [toPayload, hname, bind, Except.bind] using hsend
    rw [hname, he] at hchecked
    split at hchecked
    · simp at hchecked
    · split at hchecked
      · simp at hchecked
      · split at hchecked
        · cases m <;> simp [nameError] at hchecked
        · simp at hchecked

/-- A consistent message that is written without loss stays what it is. -/
theorem Consistent.read_back (h : m.Consistent) {payload : Bytes}
    (hsend : m.toPayload = .ok payload) (hintegral : ∀ v ∈ m.freeForm, v.isIntegral = true) :
    ofPayload payload = .ok m := by
  obtain ⟨-, hnamed, -⟩ := h.exists_toPayload_iff.mp ⟨payload, hsend⟩
  have hresolved : m.resolvedName = m.declaredName := if_neg hnamed
  have hsame : m.named = m := by
    cases m <;> simp only [named, hresolved] <;> rfl
  obtain ⟨-, hagree, rfl⟩ := toPayload_ok hsend
  rw [ofPayload_print hagree (h.carried hintegral) (h.depth_le _), hsame]

/-- However a message was spelled, once it was read it may be sent if and only if it has a number and a
name and, as a response, belongs to a request; its payload is never one of another name. If its free-form
data has no number but integers, the bytes that are sent are read as the same message, and written once
more they are the same bytes. -/
theorem toPayload_stable {spelling : Bytes} {m : Message} (h : ofPayload spelling = .ok m) :
    ((∃ payload, m.toPayload = .ok payload) ↔
        0 < m.seq ∧ m.declaredName ≠ "" ∧ ∀ r, m = .response r → 0 < r.requestSeq) ∧
      (∀ kind declared payload, m.toPayload ≠ .error (.payloadMismatch kind declared payload)) ∧
      ∀ payload, m.toPayload = .ok payload → (∀ v ∈ m.freeForm, v.isIntegral = true) →
        ofPayload payload = .ok m ∧ (ofPayload payload >>= toPayload) = .ok payload := by
  have hconsistent := ofPayload_ensures spelling m h
  refine ⟨hconsistent.exists_toPayload_iff, hconsistent.toPayload_ne, ?_⟩
  intro payload hsend hintegral
  have hread := hconsistent.read_back hsend hintegral
  refine ⟨hread, ?_⟩
  rw [hread]
  exact hsend

/-- A launch with its members in an unusual order, a key that occurs twice, one that is unknown and a field
that is first absent. -/
def oddSpelling : Bytes := Utf8.encode <|
  " \x7b\"arguments\" : \x7b\"noDebug\":null, \"b\":[1.5], \"a\":\x7b\"y\":[],\"x\":\"\\u0041\"\x7d," ++
    "\"b\":-7 , \"noDebug\":true\x7d, \"extra\":[0.5], \"seq\":3,\"type\":\"request\"," ++
    "\"command\":\"launch\"\x7d "

/-- What the launch is. -/
def plainLaunch : Message :=
  .request {
    seq := 3
    command := "launch"
    arguments := some <| .launch {
      noDebug := some true
      additional := .ofMembers [
        ("b", .number (.integer (.ofInt64 (-7)))),
        ("a", .object [("y", .array []), ("x", .string "A")])] } }

theorem toPayload_stable_oddSpelling :
    ofPayload oddSpelling = .ok plainLaunch ∧
      ∃ payload, plainLaunch.toPayload = .ok payload ∧ ofPayload payload = .ok plainLaunch ∧
        (ofPayload payload >>= toPayload) = .ok payload := by
  have hread : ofPayload oddSpelling = .ok plainLaunch := by
    have hsome : (ofPayload oddSpelling).toOption = some plainLaunch := by
      rw [oddSpelling, Utf8.encode_eq_toByteArray]
      decide +kernel
    generalize ofPayload oddSpelling = result at hsome ⊢
    cases result with
    | error e => simp [Except.toOption] at hsome
    | ok m => simpa [Except.toOption] using hsome
  obtain ⟨hsendable, -, hstable⟩ := toPayload_stable hread
  obtain ⟨payload, hsend⟩ := hsendable.mpr ⟨by decide, by decide, by simp [plainLaunch]⟩
  obtain ⟨hsame, hagain⟩ := hstable payload hsend (by decide +kernel)
  exact ⟨hread, payload, hsend, hsame, hagain⟩

end Message

end DebugAdapter.Protocol
