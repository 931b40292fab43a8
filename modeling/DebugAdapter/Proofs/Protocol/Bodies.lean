import DebugAdapter.Proofs.Protocol.Stability

/-! # Bodies of responses

A response that may be sent is always read back, and the outcome decides how its body is read: under the
name of the command if the response succeeded, as an error if it failed. The name of the body is checked
when the response is sent, but a failed response is not kept from carrying a body that is no error. Such a
body is misplaced: it is read as an error that says nothing. Every other body is read as what it is. -/

namespace DebugAdapter.Protocol

open Json

/-! ## Errors in the place of other bodies -/

/-- An object without the field of an error is an error that says nothing. -/
theorem ErrorBody.ofValue?_toValue_of_not_mem {α : Type} [Record α] (h : "error" ∉ Record.names α)
    (a : α) : (Record.ofValue? (Record.toValue a) : Option ErrorBody) = some {} := by
  have habsent : Value.lookup? "error" (Record.members (Record.names α) (Record.fields a)) = none := by
    apply Value.lookup?_of_forall_ne
    intro m hm hkey
    exact h (hkey ▸ (Record.mem_members hm).1)
  have hfields : (Record.names ErrorBody).map (fun name =>
      (Value.lookup? name (Record.members (Record.names α) (Record.fields a))).bind Record.present) =
        [none] := by
    simp [Record.names, habsent]
  rw [Record.toValue, Record.ofValue?, hfields]
  rfl

/-- What a body is read as where an error is expected. -/
def ResponseBody.asError : ResponseBody → ResponseBody
  | error body => error body
  | _ => error {}

theorem ResponseBody.decode_error_toValue (b : ResponseBody) :
    decode "error" b.toValue = .ok b.asError := by
  cases b with
  | error body => exact decode_toValue (.error body)
  | capabilities | threads | stackTrace | scopes | variableList | resumed =>
    refine PayloadTable.decode_of_lookup rfl ?_
    exact congrArg (Option.map error) (ErrorBody.ofValue?_toValue_of_not_mem (by decide) _)

theorem ResponseBody.name_asError_eq_iff (b : ResponseBody) :
    b.asError.name = b.name ↔ b.isError = true := by
  cases b <;> simp [asError, name, isError]

/-! ## Responses that are read back -/

namespace Response

variable {r : Response} {payload : Bytes}

/-- The body that a client reads. -/
def readBody (r : Response) : Option ResponseBody :=
  if r.success then r.body else r.body.map (·.asError)

/-- Whether a failed response carries a body that is no error. -/
def isMisplaced (r : Response) : Bool := !r.success && r.body.any (!·.isError)

theorem decodeOptional_toValue {name : String} (hagree : ∀ p ∈ r.payloadName, p = name) :
    decodeOptional (ResponseBody.decodeFor name r.success) (r.body.map (·.toValue)) =
      .ok r.readBody := by
  obtain ⟨seq, requestSeq, success, command, message, _ | b⟩ := r
  · cases success <;> rfl
  · cases success with
    | true =>
      have hname : b.name = name := hagree b.name (by simp [payloadName])
      exact decodeOptional_some (hname ▸ b.decode_toValue)
    | false => exact decodeOptional_some b.decode_error_toValue

theorem isIntegral_document (r : Response) (name : String) :
    ((Message.response r).document name).isIntegral = true := by
  have hlast : ∀ {v : Value}, v.isIntegral = true → (v.isIntegral && true) = true :=
    fun hv => (Bool.and_true _).trans hv
  obtain ⟨seq, requestSeq, success, command, _ | text, _ | b⟩ := r
  · rfl
  · exact hlast b.isIntegral_toValue
  · rfl
  · exact hlast b.isIntegral_toValue

theorem depth_document_le (r : Response) (name : String) :
    ((Message.response r).document name).depth ≤ Reader.nestingLimit := by
  apply Message.depth_document_le
  intro v hv
  obtain ⟨b, -, rfl⟩ := Option.map_eq_some_iff.mp hv
  exact b.depth_toValue_le

/-- A response that may be sent is read back under its own name, with the body that its outcome makes
of the one it carries. -/
theorem ofPayload_toPayload_response (hsend : (Message.response r).toPayload = .ok payload) :
    Message.ofPayload payload = .ok (.response
      { r with command := (Message.response r).resolvedName, body := r.readBody }) := by
  obtain ⟨-, hagree, rfl⟩ := Message.toPayload_ok hsend
  have hintegral := r.isIntegral_document (Message.response r).resolvedName
  have hdepth := r.depth_document_le (Message.response r).resolvedName
  rw [Message.ofPayload, readKind_print hintegral hdepth]
  change (readResponse _ >>= _) = _
  rw [readResponse_print_of_decode hintegral hdepth (decodeOptional_toValue hagree)]
  rfl

theorem map_name_readBody_eq_iff (r : Response) :
    r.readBody.map (·.name) = r.body.map (·.name) ↔ r.isMisplaced = false := by
  obtain ⟨seq, requestSeq, success, command, message, _ | b⟩ := r
  · cases success <;> simp [readBody, isMisplaced]
  · cases success <;> simp [readBody, isMisplaced, ResponseBody.name_asError_eq_iff]

/-- Whatever response is sent, a response is read, with a body if and only if one was sent. The two
bodies are of one kind, and then the same, if and only if the body is not misplaced. -/
theorem sameKind_iff_not_isMisplaced (hsend : (Message.response r).toPayload = .ok payload) :
    ∃ r', Message.ofPayload payload = .ok (.response r') ∧
      r' = { r with command := (Message.response r).resolvedName, body := r'.body } ∧
      r'.body.isSome = r.body.isSome ∧
      (r'.body.map (·.name) = r.body.map (·.name) ↔ r.isMisplaced = false) ∧
      r'.body = if r.isMisplaced then some (.error {}) else r.body := by
  refine ⟨_, ofPayload_toPayload_response hsend, rfl, ?_, r.map_name_readBody_eq_iff, ?_⟩
  · dsimp only [readBody]
    split <;> simp
  · obtain ⟨seq, requestSeq, success, command, message, _ | b⟩ := r
    · cases success <;> rfl
    · cases success <;> cases b <;> rfl

/-- A successful response that leaves its command to its body. -/
def namelessThreads : Response where
  seq := 5
  requestSeq := 2
  success := true
  message := some "two\nlines"
  body := some (.threads ⟨[⟨1, "main"⟩]⟩)

def namelessThreadsText : String :=
  "\x7b\"seq\":5,\"type\":\"response\",\"request_seq\":2,\"success\":true,\"command\":\"threads\"," ++
    "\"message\":\"two\\nlines\",\"body\":\x7b\"threads\":[\x7b\"id\":1,\"name\":\"main\"\x7d]\x7d\x7d"

theorem sameKind_iff_not_isMisplaced_nameless :
    (Message.response namelessThreads).toPayload = .ok (Utf8.encode namelessThreadsText) ∧
      ∃ r', Message.ofPayload (Utf8.encode namelessThreadsText) = .ok (.response r') ∧
        r'.command = "threads" ∧ r'.body = namelessThreads.body := by
  have htext : Printer.value ((Message.response namelessThreads).document "threads") =
      Utf8.encode namelessThreadsText := by
    decide +kernel
  have hsend : (Message.response namelessThreads).toPayload = .ok (Utf8.encode namelessThreadsText) :=
    congrArg Except.ok htext
  obtain ⟨r', hread, heq, -, -, hbody⟩ := sameKind_iff_not_isMisplaced hsend
  exact ⟨hsend, r', hread, heq ▸ rfl, hbody⟩

/-- A failed response that carries the threads all the same. -/
def failedThreads : Response where
  seq := 1
  requestSeq := 1
  command := "threads"
  body := some (.threads ⟨[]⟩)

def failedThreadsText : String :=
  "\x7b\"seq\":1,\"type\":\"response\",\"request_seq\":1,\"success\":false,\"command\":\"threads\"," ++
    "\"body\":\x7b\"threads\":[]\x7d\x7d"

/-- It is sent, and it is read as a response with a body of another kind. -/
theorem not_sameKind_failedThreads :
    (Message.response failedThreads).toPayload = .ok (Utf8.encode failedThreadsText) ∧
      Message.ofPayload (Utf8.encode failedThreadsText) =
        .ok (.response { failedThreads with body := some (.error {}) }) ∧
      (ResponseBody.error {}).name ≠ (ResponseBody.threads ⟨[]⟩).name := by
  have htext : Printer.value ((Message.response failedThreads).document "threads") =
      Utf8.encode failedThreadsText := by
    decide +kernel
  have hsend : (Message.response failedThreads).toPayload = .ok (Utf8.encode failedThreadsText) :=
    congrArg Except.ok htext
  exact ⟨hsend, ofPayload_toPayload_response hsend, by decide⟩

end Response

end DebugAdapter.Protocol
