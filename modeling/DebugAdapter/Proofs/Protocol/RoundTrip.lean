import DebugAdapter.Proofs.Json.Fields
import DebugAdapter.Proofs.Protocol.Names
import DebugAdapter.Proofs.Protocol.Vocabulary

/-! # Messages survive their written form

A message that may be sent is read back from its bytes with its name filled in. The type is found
in a first pass, the fields of that type in a second one, and the name chooses how the payload is
read. -/

namespace DebugAdapter.Protocol

open Json

/-! ## What is carried -/

/-- Messages that are written without loss: free-form data has only integral numbers and stays
apart from the fields beside it, and a failed response has no body but an error. -/
def Message.isCarried : Message → Bool
  | .request r => r.arguments.all (·.isCarried)
  | .response r => r.success || r.body.all (·.isError)
  | .event e => e.body.all (·.isCarried)

/-! ## Fields -/

/-- A member with a known name is held. -/
theorem foldlM_known (known : List Field) (read : Fields) (name : String) {v : Value}
    (members : List (String × Value)) {field : Field} {held : Held}
    (hfind : known.find? (·.name == name) = some field) (hnew : read.lookup name = none)
    (hhold : field.type.hold? v = some held) :
    ((name, v) :: members).foldlM (Fields.addMember? known) read =
      members.foldlM (Fields.addMember? known) ((name, held) :: read) := by
  simp only [List.foldlM_cons, Fields.addMember?, hfind, hnew, hhold, Option.isSome_none,
    Bool.false_eq_true, if_false, Option.map_some, Option.bind_eq_bind, Option.bind_some]

/-- A member with an unknown name is skipped. -/
theorem foldlM_unknown (known : List Field) (read : Fields) (name : String) {v : Value}
    (members : List (String × Value)) (hfind : known.find? (·.name == name) = none) :
    ((name, v) :: members).foldlM (Fields.addMember? known) read =
      members.foldlM (Fields.addMember? known) read := by
  simp only [List.foldlM_cons, Fields.addMember?, hfind, Option.bind_eq_bind, Option.bind_some]

/-- The held form of a payload that may be left out. -/
def heldPayload (key : String) (v : Option Value) : Fields :=
  (v.map fun v => (key, .optionalValue (some v))).toList

/-- A payload that may be left out comes last. -/
theorem foldlM_payload (known : List Field) (read : Fields) (key : String) {α : Type}
    {toValue : α → Value} {payload : Option α}
    (hfind : known.find? (·.name == key) = some ⟨key, .optionalValue⟩)
    (hnew : read.lookup key = none) (hpayload : ∀ a, toValue a ≠ .null) :
    ((payload.map toValue).map (key, ·)).toList.foldlM (Fields.addMember? known) read =
      some (heldPayload key (payload.map toValue) ++ read) := by
  cases payload with
  | none => rfl
  | some a =>
    exact foldlM_known known read key [] hfind hnew (FieldType.hold?_optionalValue (hpayload a))

/-- In the second pass the type is skipped. -/
theorem ofMembers?_heading {known : List Field} {m : Message} {members : List (String × Value)}
    (hseq : known.find? (·.name == "seq") = some ⟨"seq", .integer⟩)
    (htype : known.find? (·.name == "type") = none) :
    Fields.ofMembers? known (m.heading ++ members) =
      members.foldlM (Fields.addMember? known) [("seq", .integer m.seq)] := by
  rw [Fields.ofMembers?, Message.heading, List.cons_append, List.cons_append, List.nil_append,
    foldlM_known _ _ _ _ hseq rfl (FieldType.hold?_integer _), foldlM_unknown _ _ _ _ htype]

/-- The first pass finds the type. -/
theorem ofValue?_envelopeFields (name : String) (m : Message) :
    Fields.ofValue? envelopeFields (m.document name) = some [("type", .text m.kind.name)] := by
  rcases m with ⟨seq, command, _ | a⟩ | ⟨seq, requestSeq, success, command, _ | text, _ | b⟩ |
      ⟨seq, event, _ | b⟩ <;>
    rfl

theorem ofValue?_requestFields (name : String) (r : Request) :
    Fields.ofValue? requestFields ((Message.request r).document name) =
      some (heldPayload "arguments" (r.arguments.map (·.toValue)) ++
        ([("command", .text name), ("seq", .integer r.seq)] : Fields)) := by
  rw [Message.document, Fields.ofValue?, ofMembers?_heading rfl rfl, List.cons_append,
    foldlM_known _ _ "command" _ rfl rfl (FieldType.hold?_text _), List.nil_append,
    foldlM_payload _ _ "arguments" rfl rfl RequestArguments.toValue_ne_null]
  cases r.arguments <;> rfl

theorem ofValue?_responseFields (name : String) (r : Response) :
    Fields.ofValue? responseFields ((Message.response r).document name) =
      some (heldPayload "body" (r.body.map (·.toValue)) ++
        ((r.message.map fun text => ("message", Held.optionalText (some text))).toList ++
          ([("command", .text name), ("success", .flag r.success),
            ("request_seq", .integer r.requestSeq), ("seq", .integer r.seq)] : Fields))) := by
  rw [Message.document, Fields.ofValue?, ofMembers?_heading rfl rfl, List.append_assoc,
    List.cons_append, foldlM_known _ _ "request_seq" _ rfl rfl (FieldType.hold?_integer _),
    List.cons_append, foldlM_known _ _ "success" _ rfl rfl (FieldType.hold?_flag _),
    List.cons_append, foldlM_known _ _ "command" _ rfl rfl (FieldType.hold?_text _),
    List.nil_append]
  dsimp only
  cases r.message with
  | none =>
    rw [Option.map_none, Option.map_none, Option.toList_none, List.nil_append,
      foldlM_payload _ _ "body" rfl rfl ResponseBody.toValue_ne_null]
    cases r.body <;> rfl
  | some text =>
    rw [Option.map_some, Option.map_some, Option.toList_some, List.singleton_append,
      foldlM_known responseFields _ "message" _ rfl rfl (FieldType.hold?_optionalText text),
      foldlM_payload _ _ "body" rfl rfl ResponseBody.toValue_ne_null]
    cases r.body <;> rfl

theorem ofValue?_eventFields (name : String) (e : Event) :
    Fields.ofValue? eventFields ((Message.event e).document name) =
      some (heldPayload "body" (e.body.map (·.toValue)) ++
        ([("event", .text name), ("seq", .integer e.seq)] : Fields)) := by
  rw [Message.document, Fields.ofValue?, ofMembers?_heading rfl rfl, List.cons_append,
    foldlM_known _ _ "event" _ rfl rfl (FieldType.hold?_text _), List.nil_append,
    foldlM_payload _ _ "body" rfl rfl EventBody.toValue_ne_null]
  cases e.body <;> rfl

/-! ## Reading a printed message -/

theorem MessageKind.ofName?_name (kind : MessageKind) : ofName? kind.name = some kind := by
  cases kind <;> decide

theorem decodeOptional_some {α : Type} {decode : Value → Except Error α} {v : Value} {payload : α}
    (h : decode v = .ok payload) : decodeOptional decode (some v) = .ok (some payload) := by
  rw [decodeOptional, h]
  rfl

section

variable {name : String}

theorem readKind_print {m : Message} (hi : (m.document name).isIntegral = true)
    (hd : (m.document name).depth ≤ Reader.nestingLimit) :
    readKind (Printer.value (m.document name)) = .ok m.kind := by
  have htype : liftJson (do
      (← Fields.ofBytes envelopeFields (Printer.value (m.document name))).text "type") =
        .ok m.kind.name := by
    rw [Fields.ofBytes_print (ofValue?_envelopeFields name m) hi hd]
    rfl
  rw [readKind, htype]
  simp [bind, Except.bind, MessageKind.ofName?_name]

theorem readRequest_print {r : Request} (hi : ((Message.request r).document name).isIntegral = true)
    (hd : ((Message.request r).document name).depth ≤ Reader.nestingLimit)
    (hdecode : ∀ a ∈ r.arguments, RequestArguments.decode name a.toValue = .ok a) :
    readRequest (Printer.value ((Message.request r).document name)) =
      .ok { r with command := name } := by
  rw [readRequest, Fields.ofBytes_print (ofValue?_requestFields name r) hi hd]
  obtain ⟨seq, command, _ | a⟩ := r
  · rfl
  · change (decodeOptional (RequestArguments.decode name) (some a.toValue) >>= _) = _
    rw [decodeOptional_some (hdecode _ rfl)]
    rfl

/-- The body of a response is what the name and the outcome make of the value it is written as. -/
theorem readResponse_print_of_decode {r : Response} {body : Option ResponseBody}
    (hi : ((Message.response r).document name).isIntegral = true)
    (hd : ((Message.response r).document name).depth ≤ Reader.nestingLimit)
    (hdecode : decodeOptional (ResponseBody.decodeFor name r.success) (r.body.map (·.toValue)) =
      .ok body) :
    readResponse (Printer.value ((Message.response r).document name)) =
      .ok { r with command := name, body } := by
  rw [readResponse, Fields.ofBytes_print (ofValue?_responseFields name r) hi hd]
  obtain ⟨seq, requestSeq, success, command, _ | text, _ | b⟩ := r
  · obtain rfl := Except.ok.inj hdecode
    rfl
  · change (decodeOptional (ResponseBody.decodeFor name success) (some b.toValue) >>= _) = _
    rw [show decodeOptional (ResponseBody.decodeFor name success) (some b.toValue) = _ from hdecode]
    rfl
  · obtain rfl := Except.ok.inj hdecode
    rfl
  · change (decodeOptional (ResponseBody.decodeFor name success) (some b.toValue) >>= _) = _
    rw [show decodeOptional (ResponseBody.decodeFor name success) (some b.toValue) = _ from hdecode]
    rfl

theorem readResponse_print {r : Response}
    (hi : ((Message.response r).document name).isIntegral = true)
    (hd : ((Message.response r).document name).depth ≤ Reader.nestingLimit)
    (hdecode : ∀ b ∈ r.body, ResponseBody.decodeFor name r.success b.toValue = .ok b) :
    readResponse (Printer.value ((Message.response r).document name)) =
      .ok { r with command := name } := by
  refine readResponse_print_of_decode hi hd ?_
  cases hbody : r.body with
  | none => rfl
  | some b => exact decodeOptional_some (hdecode b hbody)

theorem readEvent_print {e : Event} (hi : ((Message.event e).document name).isIntegral = true)
    (hd : ((Message.event e).document name).depth ≤ Reader.nestingLimit)
    (hdecode : ∀ b ∈ e.body, EventBody.decode name b.toValue = .ok b) :
    readEvent (Printer.value ((Message.event e).document name)) = .ok { e with event := name } := by
  rw [readEvent, Fields.ofBytes_print (ofValue?_eventFields name e) hi hd]
  obtain ⟨seq, event, _ | b⟩ := e
  · rfl
  · change (decodeOptional (EventBody.decode name) (some b.toValue) >>= _) = _
    rw [decodeOptional_some (hdecode _ rfl)]
    rfl

end

/-- The body of a response is read under its own name: the name of the response, or the name of
errors if the response failed. -/
theorem Response.decodeFor_toValue {r : Response} {name : String}
    (hcarried : (Message.response r).isCarried = true) (hagree : ∀ p ∈ r.payloadName, p = name) :
    ∀ b ∈ r.body, ResponseBody.decodeFor name r.success b.toValue = .ok b := by
  obtain ⟨seq, requestSeq, success, command, message, body⟩ := r
  rintro b rfl
  cases success with
  | true =>
    have hname : b.name = name := hagree b.name (by simp [payloadName])
    rw [ResponseBody.decodeFor, if_pos rfl, ← hname]
    exact b.decode_toValue
  | false =>
    cases b with
    | error body => exact ResponseBody.decode_toValue (.error body)
    | capabilities | threads | stackTrace | scopes | variableList | resumed =>
      exact absurd hcarried Bool.false_ne_true

namespace Message

theorem isIntegral_document {m : Message} (h : m.isCarried = true) (name : String) :
    (m.document name).isIntegral = true := by
  have hlast : ∀ {v : Value}, v.isIntegral = true → (v.isIntegral && true) = true :=
    fun hv => (Bool.and_true _).trans hv
  rcases m with ⟨seq, command, _ | a⟩ | ⟨seq, requestSeq, success, command, _ | text, _ | b⟩ |
      ⟨seq, event, _ | b⟩
  · rfl
  · exact hlast (RequestArguments.isIntegral_toValue h)
  · rfl
  · exact hlast b.isIntegral_toValue
  · rfl
  · exact hlast b.isIntegral_toValue
  · rfl
  · exact hlast (EventBody.isIntegral_toValue h)

/-- A message that is written without loss under a name that agrees with its payload is read back, and
declares its name then. -/
theorem ofPayload_print {m : Message} (hagree : ∀ p ∈ m.payloadName, p = m.resolvedName)
    (hcarried : m.isCarried = true)
    (hdepth : (m.document m.resolvedName).depth ≤ Reader.nestingLimit) :
    ofPayload (Printer.value (m.document m.resolvedName)) = .ok m.named := by
  have hintegral := isIntegral_document hcarried m.resolvedName
  rw [ofPayload, readKind_print hintegral hdepth]
  cases m with
  | request r =>
    have hdecode : ∀ a ∈ r.arguments,
        RequestArguments.decode (request r).resolvedName a.toValue = .ok a := by
      intro a ha
      have hname : a.name = (request r).resolvedName := hagree a.name (Option.mem_map_of_mem _ ha)
      rw [isCarried, Option.mem_def.mp ha] at hcarried
      rw [← hname]
      exact RequestArguments.decode_toValue hcarried
    change (readRequest _ >>= _) = _
    rw [readRequest_print hintegral hdepth hdecode]
    rfl
  | response r =>
    change (readResponse _ >>= _) = _
    rw [readResponse_print hintegral hdepth (Response.decodeFor_toValue hcarried hagree)]
    rfl
  | event e =>
    have hdecode : ∀ b ∈ e.body, EventBody.decode (event e).resolvedName b.toValue = .ok b := by
      intro b hb
      have hname : b.name = (event e).resolvedName := hagree b.name (Option.mem_map_of_mem _ hb)
      rw [isCarried, Option.mem_def.mp hb] at hcarried
      rw [← hname]
      exact EventBody.decode_toValue hcarried
    change (readEvent _ >>= _) = _
    rw [readEvent_print hintegral hdepth hdecode]
    rfl

/-- A message that may be sent and is written without loss is read back, and declares its name
then. -/
theorem ofPayload_toPayload {m : Message} {payload : Bytes} (hsend : m.toPayload = .ok payload)
    (hcarried : m.isCarried = true)
    (hdepth : (m.document m.resolvedName).depth ≤ Reader.nestingLimit) :
    ofPayload payload = .ok m.named := by
  obtain ⟨-, hagree, rfl⟩ := toPayload_ok hsend
  exact ofPayload_print hagree hcarried hdepth

/-- A launch that leaves its command to its arguments, with free-form data two containers deep. -/
def scriptLaunch : Message :=
  .request {
    seq := 7
    arguments := some <| .launch {
      noDebug := some true
      additional := .ofMembers [
        ("program", .string "run\n.sh"),
        ("args", .array [.array [], .string "\"é\"", .number (.integer (.ofInt64 (-3)))])] } }

/-- The bytes of `scriptLaunch`, which have the members of the free-form data in order. -/
def scriptLaunchText : String :=
  "\x7b\"seq\":7,\"type\":\"request\",\"command\":\"launch\",\"arguments\":\x7b\"noDebug\":true," ++
    "\"args\":[[],\"\\\"é\\\"\",-3],\"program\":\"run\\n.sh\"\x7d\x7d"

theorem ofPayload_toPayload_scriptLaunch :
    scriptLaunch.toPayload = .ok (Utf8.encode scriptLaunchText) ∧ scriptLaunch.isCarried = true ∧
      (scriptLaunch.document scriptLaunch.resolvedName).depth ≤ Reader.nestingLimit ∧
      ofPayload (Utf8.encode scriptLaunchText) = .ok scriptLaunch.named := by
  have htext : Printer.value (scriptLaunch.document "launch") = Utf8.encode scriptLaunchText := by
    decide +kernel
  have hsend : scriptLaunch.toPayload = .ok (Utf8.encode scriptLaunchText) :=
    congrArg Except.ok htext
  have hcarried : scriptLaunch.isCarried = true := by decide +kernel
  have hdepth : (scriptLaunch.document scriptLaunch.resolvedName).depth ≤ Reader.nestingLimit := by
    decide +kernel
  exact ⟨hsend, hcarried, hdepth, ofPayload_toPayload hsend hcarried hdepth⟩

end Message

end DebugAdapter.Protocol
