import Mathlib.Data.List.Forall2
import DebugAdapter.Proofs.Evaluation.Runs
import DebugAdapter.Proofs.Session.Lifecycle

/-! # Requests and their responses

What a session has to do owes an answer to at most one request. The responses of a run so far
match the requests that were worked on, but for the one that is still owed its answer. -/

namespace DebugAdapter.Evaluation

open Debuggee Protocol Session

/-! ## Requests and responses of a run -/

/-- A response belongs to a request: it carries what was asked for or nothing, or else it says why
the request failed. -/
structure Answers (r : Request) (p : Response) : Prop where
  requestSeq_eq : p.requestSeq = r.seq
  command_eq : p.command = r.command
  outcome :
    (p.success = true ∧ p.message = none ∧
      ∀ body ∈ p.body, body.name = r.command ∧ body.isError = false) ∨
    (p.success = false ∧ p.message.isSome ∧ p.body = none)

/-- The request that the session begins to work on. -/
def Happening.request? : Happening → Option Request
  | .handled (.request r) => some r
  | _ => none

/-- The message that got through. -/
def Happening.sent? : Happening → Option Message
  | .posted _ m (.ok ()) _ => some m
  | _ => none

def responseOf? : Message → Option Response
  | .response p => some p
  | _ => none

/-- The requests that the session worked on. -/
def requests (log : List Happening) : List Request := log.filterMap Happening.request?

/-- The messages that got through. -/
def sent (log : List Happening) : List Message := log.filterMap Happening.sent?

/-- The responses that got through. -/
def responses (log : List Happening) : List Response := (sent log).filterMap responseOf?

theorem requests_append (log more : List Happening) :
    requests (log ++ more) = requests log ++ requests more := List.filterMap_append

theorem sent_append (log more : List Happening) : sent (log ++ more) = sent log ++ sent more :=
  List.filterMap_append

theorem responses_append (log more : List Happening) :
    responses (log ++ more) = responses log ++ responses more := by
  rw [responses, sent_append, List.filterMap_append, responses, responses]

/-- Nothing is posted and no message taken up. -/
def Happening.IsSilent : Happening → Prop
  | .handled _ | .posted _ _ _ _ => False
  | _ => True

theorem answers_ok {r : Request} {body : Option ResponseBody}
    (h : ∀ b ∈ body, b.name = r.command ∧ b.isError = false) : Answers r (.ok r body) :=
  ⟨rfl, rfl, .inl ⟨rfl, rfl, h⟩⟩

theorem answers_failed (r : Request) (text : String) : Answers r (.failed r text) :=
  ⟨rfl, rfl, .inr ⟨rfl, rfl, rfl⟩⟩

/-- A response that belongs to a request may be sent if the request may have been. -/
theorem Answers.sendable {r : Request} {p : Response} (h : Answers r p) (hseq : 0 < r.seq)
    (hcommand : r.command ≠ "") : (Message.response p).Sendable := by
  refine Response.sendable (h.requestSeq_eq ▸ hseq) (h.command_eq ▸ hcommand) ?_
  intro name hname
  rw [h.command_eq]
  rcases h.outcome with ⟨hsuccess, -, hbody⟩ | ⟨-, -, hnone⟩
  · unfold Response.payloadName at hname
    cases hb : p.body with
    | none =>
      rw [hb] at hname
      exact nomatch hname
    | some body =>
      rw [hb] at hname
      obtain ⟨hfits, hnoError⟩ := hbody body hb
      simp only [hnoError, Bool.false_and, Bool.false_eq_true, if_false] at hname
      exact (Option.some.inj hname).symm.trans hfits
  · unfold Response.payloadName at hname
    rw [hnone] at hname
    exact nomatch hname

/-! ## Work that owes an answer -/

/-- Nothing but an event is ever posted by the pump, nor by the session apart from responses. -/
def IsEvent (m : Message) : Prop := ∃ e, m = .event e ∧ m.Sendable

theorem isEvent_ofBody (body : EventBody) : IsEvent (.event (.ofBody body)) :=
  ⟨_, rfl, Event.sendable_ofBody body⟩

theorem isEvent_named {name : String} (h : name ≠ "") : IsEvent (.event { event := name }) :=
  ⟨_, rfl, Event.sendable h (fun _ hnone => nomatch hnone)⟩

namespace Task

/-- The task answers nothing and leaves the session as it is. -/
def IsQuiet : Task → Prop
  | .send m => IsEvent m
  | .start | .cancel | .purgeEvents | .purgeFrames | .purgeVariables | .resume => True
  | _ => False

/-- The session may come to its end with the task. -/
def IsFinal : Task → Prop
  | .decide _ _ | .farewell | .close => True
  | _ => False

/-- The task answers a request, or finds out what to answer. -/
def IsAnswer (r : Request) : Task → Prop
  | .send m => ∃ p, m = .response p ∧ Answers r p
  | .fail request _ => request = r
  | .findStop request _ | .findFrames request _ _ _ => request = r ∧ r.command = "stackTrace"
  | .findScopes request _ => request = r ∧ r.command = "scopes"
  | .findVariables request _ => request = r ∧ r.command = "variables"
  | .release request _ => request = r ∧ r.command = "continue"
  | _ => False

end Task

/-- The work of a session answers a certain request once, or no request at all. -/
inductive Owes : Option Request → List Task → Prop where
  | nil : Owes none []
  | quiet {r task rest} (h : Task.IsQuiet task) (hrest : Owes r rest) : Owes r (task :: rest)
  | final {task rest} (h : Task.IsFinal task) (hrest : Owes none rest) : Owes none (task :: rest)
  | answer {r task rest} (h : Task.IsAnswer r task) (hrest : Owes none rest) :
      Owes (some r) (task :: rest)

theorem owes_respond {r : Request} {body : Option ResponseBody} {rest : List Task}
    (hbody : ∀ b ∈ body, b.name = r.command ∧ b.isError = false) (hrest : Owes none rest) :
    Owes (some r) (.respond r body :: rest) :=
  .answer ⟨_, rfl, answers_ok hbody⟩ hrest

theorem owes_farewell : Owes none farewellTasks :=
  .final trivial (.quiet trivial (.quiet trivial (.quiet trivial (.quiet trivial
    (.final trivial .nil)))))

/-- The plan for a request answers it. -/
theorem owes_planRequest (r : Request) {rest : List Task} (hrest : Owes none rest) :
    Owes (some r) ((planRequest r).1 ++ rest) := by
  have hnothing : ∀ b ∈ (none : Option ResponseBody), b.name = r.command ∧ b.isError = false :=
    fun _ h => nomatch h
  unfold planRequest
  dsimp only
  split
  · exact .quiet (isEvent_named (by decide)) (owes_respond hnothing hrest)
  · exact owes_respond hnothing (.quiet trivial hrest)
  · rename_i hcommand
    refine owes_respond (fun b hb => ?_) hrest
    obtain rfl := Option.some.inj hb
    exact ⟨hcommand.symm, rfl⟩
  · exact .quiet trivial (owes_respond hnothing hrest)
  · exact owes_respond hnothing hrest
  · rename_i hcommand _
    exact .answer ⟨rfl, hcommand⟩ hrest
  · rename_i hcommand _
    exact .answer ⟨rfl, hcommand⟩ hrest
  · rename_i hcommand _
    exact .answer ⟨rfl, hcommand⟩ hrest
  · rename_i hcommand _
    exact .answer ⟨rfl, hcommand⟩ hrest
  all_goals exact .answer rfl hrest

/-- The plan for a message answers the message if it is a request. -/
theorem owes_planMessage (started : Bool) (m : Message) :
    Owes (Happening.handled m).request? (planMessage started m) := by
  cases m with
  | request r => exact owes_planRequest r (.final trivial .nil)
  | response | event => exact .final trivial .nil

/-! ## What a run has done so far -/

/-- Messages got through an outbox: the wire has their frames, numbered one after the other. -/
structure Carried (start : Outbox) (messages : List Message) (o : Outbox) : Prop where
  seq_eq : o.seq = start.seq + messages.length
  frames : ∃ payloads : List Bytes, o.sink.bytes = start.sink.bytes ++ payloads.flatMap Framing.frame ∧
    payloads.length = messages.length ∧
    ∀ (k : Nat) m payload, messages[k]? = some m → payloads[k]? = some payload →
      Numbered (start.seq + (k + 1)) m payload

theorem Carried.nil (start : Outbox) : Carried start [] start :=
  ⟨rfl, [], (List.append_nil _).symm, rfl, by simp⟩

theorem Carried.of_same {start o o' : Outbox} {messages : List Message}
    (h : Carried start messages o) (hsink : o'.sink.bytes = o.sink.bytes) (hseq : o'.seq = o.seq) :
    Carried start messages o' :=
  ⟨hseq.trans h.seq_eq, hsink ▸ h.frames⟩

theorem Carried.snoc {start o o' : Outbox} {messages : List Message} {m : Message}
    {payload : Bytes} (h : Carried start messages o) (hm : Outbox.Delivered m payload o o') :
    Carried start (messages ++ [m]) o' := by
  obtain ⟨payloads, hbytes, hlength, hnumbered⟩ := h.frames
  refine ⟨?_, payloads ++ [payload], ?_, ?_, ?_⟩
  · rw [hm.seq_eq, h.seq_eq, List.length_append, List.length_singleton, Nat.add_assoc]
  · rw [hm.bytes_eq, hbytes, List.flatMap_append, List.flatMap_singleton, List.append_assoc]
  · rw [List.length_append, List.length_append, hlength, List.length_singleton,
      List.length_singleton]
  · intro k n other hn hother
    rcases Nat.lt_or_ge k messages.length with hk | hk
    · rw [List.getElem?_append_left hk] at hn
      rw [List.getElem?_append_left (hlength ▸ hk)] at hother
      exact hnumbered k n other hn hother
    · rw [List.getElem?_append_right hk] at hn
      rw [List.getElem?_append_right (hlength ▸ hk), hlength] at hother
      rw [List.getElem?_singleton] at hn hother
      split at hn
      · rename_i hzero
        rw [if_pos hzero] at hother
        obtain rfl := Option.some.inj hn
        obtain rfl := Option.some.inj hother
        have hnumber : start.seq + (k + 1) = o.seq + 1 := by rw [h.seq_eq]; omega
        exact hnumber ▸ hm.numbered
      · exact nomatch hn

/-- What got through, apart from events, are responses to the requests that were worked on, in
order and each to one. At most one request is not answered yet. -/
def Matched (pending : Option Request) (log : List Happening) : Prop :=
  ∃ answered, requests log = answered ++ pending.toList ∧
    List.Forall₂ Answers answered (responses log)

/-- Whether a message that was posted got through, and who may post what. -/
structure Orderly (sender : Actor) (m : Message) (result : Except Error Unit) : Prop where
  /-- No message is refused for what it is. -/
  result_eq : result = .ok () ∨ ∃ e, result = .error (.io e)
  of_session : sender = .session → result = .ok ()
  of_pump : sender ≠ .session → IsEvent m

/-- No message is taken up, and none gets through. -/
structure Unsent (more : List Happening) : Prop where
  requests_eq : requests more = []
  sent_eq : sent more = []
  posts : ∀ sender m result bytes, .posted sender m result bytes ∈ more → Orderly sender m result

theorem Unsent.of_silent {more : List Happening} (h : ∀ x ∈ more, x.IsSilent) : Unsent more where
  requests_eq := by
    refine List.filterMap_eq_nil_iff.mpr fun x hx => ?_
    cases x with
    | handled => exact (h _ hx).elim
    | _ => rfl
  sent_eq := by
    refine List.filterMap_eq_nil_iff.mpr fun x hx => ?_
    cases x with
    | posted => exact (h _ hx).elim
    | _ => rfl
  posts _ _ _ _ hmem := (h _ hmem).elim

theorem Unsent.nil : Unsent [] := .of_silent fun _ hx => absurd hx List.not_mem_nil

/-- What holds of a run over a connection that works. -/
structure Serving (start : Outbox) (log : List Happening) (s : System) : Prop where
  connection :
    (s.session.state = .closed ∧ s.session.work = [] ∧ s.outbox.sink.attached = false) ∨
    (s.session.state ≠ .closed ∧ s.outbox.sink.Accepts)
  carried : Carried start (sent log) s.outbox
  matched : ∃ pending, Matched pending log ∧ Owes pending s.session.work
  posts : ∀ sender m result bytes, .posted sender m result bytes ∈ log → Orderly sender m result
  pump : ∀ m, .send m ∈ s.pump → IsEvent m

/-- There are numbers left, and the requests are such that they may have been sent. -/
structure Modest (start : Outbox) (log : List Happening) : Prop where
  room : start.seq + (sent log).length + 1 < 2 ^ 63
  requests : ∀ r ∈ requests log, 0 < r.seq ∧ r.command ≠ ""

theorem Modest.of_append {start : Outbox} {log more : List Happening}
    (h : Modest start (log ++ more)) : Modest start log where
  room := by
    have hroom := h.room
    rw [sent_append, List.length_append] at hroom
    omega
  requests r hr := h.requests r (by rw [requests_append]; exact List.mem_append_left _ hr)

end DebugAdapter.Evaluation
