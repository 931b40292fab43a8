import DebugAdapter.Proofs.Framing.Encoder
import DebugAdapter.Proofs.Session.Lifecycle
import DebugAdapter.Proofs.Session.Posting
import DebugAdapter.Proofs.Text.Utf8

/-! # Which handlers are told that a session is over

A handler that has welcomed a client holds what it needs to serve it, and gives it back when it is told
that the session is over. It is told so only in a session that was opened, and a session is opened when
the answer to the client has been sent. A handler whose welcome cannot be answered hears nothing more. -/

namespace DebugAdapter.Session

open Protocol Framing

variable {σ : Type}

/-! ## Calls by kind -/

/-- The handler has welcomed the client. -/
def Callback.isWelcome : Callback → Bool
  | .welcome _ _ _ (.ok _) => true
  | _ => false

/-- The handler is told that the session is over. -/
def Callback.isFarewell : Callback → Bool
  | .terminate _ _ => true
  | _ => false

/-- How often the handler is told that the session is over. -/
def farewells (calls : List Callback) : Nat := calls.countP Callback.isFarewell

theorem farewells_append (first second : List Callback) :
    farewells (first ++ second) = farewells first + farewells second :=
  List.countP_append

theorem Conversation.farewells_eq {d d' : Decoder} {o o' : Outbox} {calls : List Callback}
    {result : Except Error Unit} (h : Conversation d o calls result d' o') : farewells calls = 0 := by
  apply List.countP_eq_zero.mpr
  intro c hc
  obtain ⟨m, before, after, answer, rfl⟩ := h.processes c hc
  simp [Callback.isFarewell]

theorem Opening.farewells_eq {d d' : Decoder} {o o' : Outbox} {calls : List Callback}
    {result : Except Error Unit} {noted : List Error} (h : Opening d o calls result noted d' o') :
    farewells calls = 0 := by
  apply List.countP_eq_zero.mpr
  intro c hc
  obtain ⟨arguments, before, after, answer, rfl⟩ := h.welcomes.2 c hc
  simp [Callback.isFarewell]

/-- A session that was opened says farewell once. -/
theorem farewells_served {d d₁ d₂ : Decoder} {o o₁ o₂ : Outbox} {first talk : List Callback}
    {opened result : Except Error Unit} {noted : List Error}
    (hopening : Opening d o first opened noted d₁ o₁)
    (hconversation : Conversation d₁ o₁ talk result d₂ o₂) (before after : Outbox) :
    farewells (first ++ talk ++ [Callback.terminate before after]) = 1 := by
  rw [farewells_append, farewells_append, hopening.farewells_eq, hconversation.farewells_eq]
  rfl

/-! ## Answers to the opening request -/

/-- What becomes of the answer to a client that was welcomed. -/
def answerTo (request : Request) (capabilities : Capabilities) (o : Outbox) : Except Error Unit :=
  (o.respondSuccess request (some (.capabilities capabilities))).1

/-- A request without a number cannot be answered. -/
theorem answerTo_unnumbered {request : Request} {o : Outbox} (capabilities : Capabilities)
    (hunnumbered : request.seq ≤ 0) (hnumber : 0 < Int64.ofNat (o.seq + 1)) :
    answerTo request capabilities o = .error .missingRequestSeq := by
  have hname : ((Message.response (.ok request (some (.capabilities capabilities)))).withSeq
      (Int64.ofNat (o.seq + 1))).checkedName = .error .missingRequestSeq := by
    simp only [Message.checkedName, Message.withSeq, Message.seq, Response.ok, Response.answering,
      if_neg (Int64.not_le.mpr hnumber), if_pos hunnumbered]
  rw [answerTo, Outbox.respondSuccess_eq, Outbox.post, Outbox.send, Message.toPayload, hname]
  rfl

/-- Over a connection that works the request that opens a session is answered, if it has a number. -/
theorem answerTo_numbered {request : Request} {o : Outbox} (capabilities : Capabilities)
    (hcommand : request.command = openingCommand) (hnumbered : 0 < request.seq)
    (hsink : o.sink.Accepts) (hseq : o.seq + 1 < 2 ^ 63) :
    answerTo request capabilities o = .ok () := by
  have hsendable :
      (Message.response (.ok request (some (.capabilities capabilities)))).Sendable := by
    apply Response.sendable
    · exact hnumbered
    · simp [Response.ok, Response.answering, hcommand, openingCommand]
    · simp [Response.payloadName, Response.ok, Response.answering, ResponseBody.isError,
        ResponseBody.name, hcommand, openingCommand]
  obtain ⟨payload, o', hpost, -⟩ := Outbox.post_of_accepts hsendable hsink hseq
  rw [answerTo, Outbox.respondSuccess_eq, hpost]

/-! ## Farewells of a run -/

/-- What follows from a welcome with its answer: the handler is told that the session is over if and only
if the answer was sent, and if it was not, the run fails with what went wrong. -/
structure Follows (request : Request) (capabilities : Capabilities) (after : Outbox)
    (calls : List Callback) (result : Except Error Unit) : Prop where
  told : answerTo request capabilities after = .ok () → farewells calls = 1
  untold : ∀ e, answerTo request capabilities after = .error e → farewells calls = 0 ∧ result = .error e

theorem Opening.welcome_eq {d d' : Decoder} {o o' : Outbox} {calls : List Callback}
    {result : Except Error Unit} {noted : List Error} (h : Opening d o calls result noted d' o')
    {arguments : InitializeArguments} {before after : Outbox} {capabilities : Capabilities}
    (hwelcome : .welcome arguments before after (.ok capabilities) ∈ calls) :
    ∃ request, d.decode = (.ok (.request request), d') ∧
      Opens (.request request) request arguments ∧ answerTo request capabilities after = result := by
  cases h with
  | absent | broken | unfit => simp at hwelcome
  | unwelcome => simp at hwelcome
  | @unanswered m _ request _ _ _ _ _ hdecode hopens hanswer
  | @opened m _ request _ _ _ _ hdecode hopens hanswer =>
    obtain rfl := hopens.message_eq
    simp only [List.mem_singleton, Callback.welcome.injEq, Except.ok.injEq] at hwelcome
    obtain ⟨rfl, -, rfl, rfl⟩ := hwelcome
    exact ⟨request, hdecode, hopens, congrArg (·.1) hanswer⟩

theorem Course.farewells_le {d d' : Decoder} {o o' : Outbox} {calls : List Callback}
    {result : Except Error Unit} {noted : List Error} (h : Course d o calls result noted d' o') :
    farewells calls ≤ 1 := by
  cases h with
  | refused hopening => simp [hopening.farewells_eq]
  | served hopening hconversation => exact Nat.le_of_eq (farewells_served hopening hconversation _ _)

theorem Course.follows {d d' : Decoder} {o o' : Outbox} {calls : List Callback}
    {result : Except Error Unit} {noted : List Error} (h : Course d o calls result noted d' o')
    {arguments : InitializeArguments} {before after : Outbox} {capabilities : Capabilities}
    (hwelcome : .welcome arguments before after (.ok capabilities) ∈ calls) :
    ∃ request d₁, d.decode = (.ok (.request request), d₁) ∧
      Opens (.request request) request arguments ∧
      Follows request capabilities after calls result := by
  cases h with
  | refused hopening =>
    obtain ⟨request, hdecode, hopens, hanswer⟩ := hopening.welcome_eq hwelcome
    refine ⟨request, _, hdecode, hopens, ?_, ?_⟩
    · intro hok
      exact nomatch hok.symm.trans hanswer
    · intro e herror
      exact ⟨hopening.farewells_eq, hanswer.symm.trans herror⟩
  | @served first _ _ talk _ _ _ _ hopening hconversation =>
    have hfirst : .welcome arguments before after (.ok capabilities) ∈ first := by
      rcases List.mem_append.mp hwelcome with hmem | hmem
      · rcases List.mem_append.mp hmem with hmem | hmem
        · exact hmem
        · obtain ⟨m, before', after', answer, heq⟩ := hconversation.processes _ hmem
          exact nomatch heq
      · simp at hmem
    obtain ⟨request, hdecode, hopens, hanswer⟩ := hopening.welcome_eq hfirst
    refine ⟨request, _, hdecode, hopens, ?_, ?_⟩
    · exact fun _ => farewells_served hopening hconversation _ _
    · intro e herror
      exact nomatch hanswer.symm.trans herror

/-- Whatever the client sends, however reads and writes fail and whatever the handler does, a handler that
has welcomed the client is told once that the session is over if the answer to the client was sent, and
never if it was not. No answer is sent to a request without a number. Over a connection that works every
other answer is sent. -/
theorem farewells_run (peer : String) (d : Decoder) (o : Outbox) (handler : Handler σ)
    (handlerState : σ) :
    let s := fresh peer d o handler handlerState
    ∃ calls, (s.recorded []).run = (s.run.1, s.run.2.recorded calls) ∧ farewells calls ≤ 1 ∧
      ∀ arguments before after capabilities,
        .welcome arguments before after (.ok capabilities) ∈ calls →
        ∃ request d', d.decode = (.ok (.request request), d') ∧
          Opens (.request request) request arguments ∧
          Follows request capabilities after calls s.run.1 ∧
          (request.seq ≤ 0 → 0 < Int64.ofNat (after.seq + 1) →
            farewells calls = 0 ∧ s.run.1 = .error .missingRequestSeq) ∧
          (0 < request.seq → after.sink.Accepts → after.seq + 1 < 2 ^ 63 → farewells calls = 1) := by
  intro s
  obtain ⟨calls, hrun, hcourse, -⟩ := run_spec peer d o handler handlerState
  refine ⟨calls, hrun, hcourse.farewells_le, ?_⟩
  intro arguments before after capabilities hwelcome
  obtain ⟨request, d', hdecode, hopens, hfollows⟩ := hcourse.follows hwelcome
  refine ⟨request, d', hdecode, hopens, hfollows, ?_, ?_⟩
  · intro hunnumbered hnumber
    exact hfollows.untold _ (answerTo_unnumbered capabilities hunnumbered hnumber)
  · intro hnumbered hsink hseq
    exact hfollows.told (answerTo_numbered capabilities hopens.command_eq hnumbered hsink hseq)

/-- A handler that welcomes every client and wants all messages. -/
def hospitable : Handler Unit where
  welcome _ x := (.ok {}, x)
  process _ x := (.ok .proceed, x)
  terminate x := x

/-- A client opens the session with a request that has no number. -/
def unnumbered : Decoder where
  source := {
    feed := {
      rest := frame (Utf8.encode
        "\x7b\"seq\":0,\"type\":\"request\",\"command\":\"initialize\",\"arguments\":\x7b\x7d\x7d")
      pace := fun _ => 100 } }

/-- The handler welcomes the client, and the session is over without its being told. -/
theorem not_farewell_unnumbered :
    let s := fresh "p" unnumbered {} hospitable ()
    (s.recorded []).run.2.state = .closed ∧
      ((s.recorded []).run.2.handlerState.2.countP Callback.isWelcome) = 1 ∧
        farewells (s.recorded []).run.2.handlerState.2 = 0 := by
  simp only [unnumbered, Utf8.encode_eq_toByteArray]
  decide +kernel

end DebugAdapter.Session
