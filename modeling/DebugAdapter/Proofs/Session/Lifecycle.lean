import DebugAdapter.Proofs.Framing.Progress
import DebugAdapter.Session.Basic

/-! # The course of a session

A handler that writes down its calls shows what a session does with it. Whatever the client sends,
however the connection fails and whatever the handler answers, a session is opened once or not at
all, its messages are handed over one by one as long as the handler wants more, and every session
ends with the connection closed once. -/

namespace DebugAdapter.Session

open Protocol Framing

variable {σ : Type}

/-! ## Calls of a handler -/

/-- A call of a handler, with the outbox before and after it. -/
inductive Callback where
  | welcome (arguments : InitializeArguments) (before after : Outbox)
      (answer : Except (List String) Capabilities)
  | process (m : Message) (before after : Outbox) (answer : Except (List String) Flow)
  | terminate (before after : Outbox)

/-- The handler that does the same and writes down its calls, the last one at the end. -/
def Handler.recorded (h : Handler σ) : Handler (σ × List Callback) where
  welcome arguments x :=
    let (answer, state, outbox) := h.welcome arguments (x.1.1, x.2)
    (answer, (state, x.1.2 ++ [.welcome arguments x.2 outbox answer]), outbox)
  process m x :=
    let (answer, state, outbox) := h.process m (x.1.1, x.2)
    (answer, (state, x.1.2 ++ [.process m x.2 outbox answer]), outbox)
  terminate x :=
    let (state, outbox) := h.terminate (x.1.1, x.2)
    ((state, x.1.2 ++ [.terminate x.2 outbox]), outbox)

/-- The session whose handler writes down its calls, after some calls. -/
def recorded (s : Session σ) (calls : List Callback) : Session (σ × List Callback) where
  peer := s.peer
  decoder := s.decoder
  outbox := s.outbox
  handler := s.handler.recorded
  handlerState := (s.handlerState, calls)
  state := s.state
  problems := s.problems

theorem receive_recorded (s : Session σ) (calls : List Callback) :
    (s.recorded calls).receive = (s.receive.1, s.receive.2.recorded calls) := by
  unfold receive recorded
  dsimp only
  split <;> rfl

/-! ## What a session goes through -/

/-- A message that opens a session. -/
structure Opens (m : Message) (request : Request) (arguments : InitializeArguments) : Prop where
  message_eq : m = .request request
  command_eq : request.command = openingCommand
  arguments_eq : request.arguments = some (.initialization arguments)

theorem opens_of_opening? {first : Option Message} {request : Request}
    {arguments : InitializeArguments} (h : opening? first = .ok (request, arguments)) :
    ∃ m, first = some m ∧ Opens m request arguments := by
  unfold opening? at h
  split at h
  · exact nomatch h
  · exact nomatch h
  · exact nomatch h
  · rename_i r
    split at h
    · exact nomatch h
    · rename_i hcommand
      split at h
      · rename_i a harguments
        obtain ⟨rfl, rfl⟩ := Prod.mk.inj (Except.ok.inj h)
        exact ⟨_, rfl, rfl, Classical.not_not.mp hcommand, harguments⟩
      · exact nomatch h

theorem opening?_of_opens {m : Message} {request : Request} {arguments : InitializeArguments}
    (h : Opens m request arguments) : opening? (some m) = .ok (request, arguments) := by
  obtain ⟨rfl, hcommand, harguments⟩ := h
  simp only [opening?, hcommand, ne_eq, not_true_eq_false, if_false, harguments]

/-- The outbox after a payload was received. -/
def arrived (d : Decoder) (o : Outbox) : Outbox := o.record (.inbound d.lastPayload)

/-- The beginning of a session: the calls of the handler, the result, the error noted, and what
becomes of the decoder and the outbox. One frame is decoded, and the session is opened if it is the
right request, the handler agrees and the answer is sent. -/
inductive Opening (d : Decoder) (o : Outbox) :
    List Callback → Except Error Unit → List Error → Decoder → Outbox → Prop where
  | absent {d' reason} (hdecode : d.decode = (.error .connectionClosed, d')) :
      Opening d o [] (.error (.handshake reason)) [.handshake reason] d' o
  | broken {e d'} (hdecode : d.decode = (.error e, d')) (he : e ≠ .connectionClosed) :
      Opening d o [] (.error e) [] d' (o.record (.failed e))
  | unfit {m d' reason} (hdecode : d.decode = (.ok m, d'))
      (hunfit : ∀ request arguments, ¬ Opens m request arguments) :
      Opening d o [] (.error (.handshake reason)) [.handshake reason] d' (arrived d' o)
  | unwelcome {m d' request arguments after causes} (hdecode : d.decode = (.ok m, d'))
      (hopens : Opens m request arguments) :
      Opening d o [.welcome arguments (arrived d' o) after (.error causes)]
        (.error (.handshake (chainText causes))) [.handshake (chainText causes)] d' after
  | unanswered {m d' request arguments after capabilities e o'} (hdecode : d.decode = (.ok m, d'))
      (hopens : Opens m request arguments)
      (hanswer : after.respondSuccess request (some (.capabilities capabilities)) =
        (.error e, o')) :
      Opening d o [.welcome arguments (arrived d' o) after (.ok capabilities)] (.error e) [] d' o'
  | opened {m d' request arguments after capabilities o'} (hdecode : d.decode = (.ok m, d'))
      (hopens : Opens m request arguments)
      (hanswer : after.respondSuccess request (some (.capabilities capabilities)) = (.ok (), o')) :
      Opening d o [.welcome arguments (arrived d' o) after (.ok capabilities)] (.ok ()) [] d' o'

/-- The middle of a session: frame after frame is decoded and handed to the handler, until the
handler stops or fails, a frame cannot be decoded or the stream ends. -/
inductive Conversation : Decoder → Outbox → List Callback → Except Error Unit → Decoder → Outbox →
    Prop where
  | ended {d o d'} (hdecode : d.decode = (.error .connectionClosed, d')) :
      Conversation d o [] (.ok ()) d' o
  | broken {d o e d'} (hdecode : d.decode = (.error e, d')) (he : e ≠ .connectionClosed) :
      Conversation d o [] (.error e) d' (o.record (.failed e))
  | failed {d o m d' after causes} (hdecode : d.decode = (.ok m, d')) :
      Conversation d o [.process m (announce m (arrived d' o)) after (.error causes)]
        (.error (.handler causes)) d' after
  | stopped {d o m d' after} (hdecode : d.decode = (.ok m, d')) :
      Conversation d o [.process m (announce m (arrived d' o)) after (.ok .stop)] (.ok ()) d' after
  | proceeded {d o m d' after calls result d'' o''} (hdecode : d.decode = (.ok m, d'))
      (hrest : Conversation d' after calls result d'' o'') :
      Conversation d o
        (.process m (announce m (arrived d' o)) after (.ok .proceed) :: calls) result d'' o''

/-- The error of a result, if it is one. -/
def errorOf {α : Type} : Except Error α → List Error
  | .ok _ => []
  | .error e => [e]

@[simp] theorem errorOf_mapError_ok (f : IoError → Error) (u : Unit) :
    errorOf ((.ok u : Except IoError Unit).mapError f) = [] := rfl

@[simp] theorem errorOf_mapError_error (f : IoError → Error) (e : IoError) :
    errorOf ((.error e : Except IoError Unit).mapError f) = [f e] := rfl

/-- The whole of a session: the calls of the handler, the result, the errors noted with the last
one first, and what becomes of the decoder and the outbox. A session that was opened says farewell
once and tells the handler once. At the end the outbox is closed once. -/
inductive Course (d : Decoder) (o : Outbox) :
    List Callback → Except Error Unit → List Error → Decoder → Outbox → Prop where
  | refused {calls e noted d' o'} (hopening : Opening d o calls (.error e) noted d' o') :
      Course d o calls (.error e)
        (errorOf (o'.close.1.mapError .io) ++ errorOf (d'.close.1.mapError .io) ++ noted)
        d'.close.2 o'.close.2
  | served {first d₁ o₁ calls result d₂ o₂ after}
      (hopening : Opening d o first (.ok ()) [] d₁ o₁)
      (hconversation : Conversation d₁ o₁ calls result d₂ o₂) :
      Course d o (first ++ calls ++ [.terminate (o₂.event "terminated" none).2 after]) result
        (errorOf (after.close.1.mapError .io) ++ errorOf (d₂.close.1.mapError .io) ++
          errorOf (o₂.event "terminated" none).1) d₂.close.2 after.close.2

/-! ## What each part of a run does -/

theorem receive_spec (s : Session σ) :
    (∃ m d', s.decoder.decode = (.ok m, d') ∧
        s.receive = (.ok (some m), { s with decoder := d', outbox := arrived d' s.outbox })) ∨
      (∃ d', s.decoder.decode = (.error .connectionClosed, d') ∧
        s.receive = (.ok none, { s with decoder := d' })) ∨
      ∃ e d', s.decoder.decode = (.error e, d') ∧ e ≠ .connectionClosed ∧
        s.receive = (.error e, { s with decoder := d', outbox := s.outbox.record (.failed e) }) := by
  unfold receive
  rcases hdecode : s.decoder.decode with ⟨e | m, d'⟩
  · by_cases he : e = .connectionClosed
    · subst he
      exact .inr (.inl ⟨d', rfl, rfl⟩)
    · refine .inr (.inr ⟨e, d', rfl, he, ?_⟩)
      dsimp only
      split
      · rename_i heq
        exact nomatch heq
      · rename_i heq
        exact absurd (Except.error.inj heq) he
      · rename_i heq
        rw [Except.error.inj heq]
  · exact .inl ⟨m, d', rfl, rfl⟩

theorem handshake_spec (s : Session σ) (hclean : s.problems = []) (earlier : List Callback) :
    ∃ calls, (s.recorded earlier).handshake =
        (s.handshake.1, s.handshake.2.recorded (earlier ++ calls)) ∧
      Opening s.decoder s.outbox calls s.handshake.1 s.handshake.2.problems
        s.handshake.2.decoder s.handshake.2.outbox := by
  unfold handshake
  rw [receive_recorded]
  rcases s.receive_spec with ⟨m, d', hdecode, hreceive⟩ | ⟨d', hdecode, hreceive⟩ |
    ⟨e, d', hdecode, he, hreceive⟩
  · rw [hreceive]
    cases hopening : opening? (some m) with
    | error reason =>
      have hunfit : ∀ request arguments, ¬ Opens m request arguments := fun _ _ hopens =>
        nomatch hopening.symm.trans (opening?_of_opens hopens)
      simp only [hopening, refuse, note, hclean]
      exact ⟨[], by rw [List.append_nil]; rfl, .unfit hdecode hunfit⟩
    | ok opening =>
      obtain ⟨request, arguments⟩ := opening
      obtain ⟨_, hsome, hopens⟩ := opens_of_opening? hopening
      obtain rfl := Option.some.inj hsome
      rcases hwelcome : s.handler.welcome arguments (s.handlerState, arrived d' s.outbox) with
        ⟨causes | capabilities, handlerState, after⟩
      · simp only [hopening, hwelcome, recorded, Handler.recorded, refuse, note, hclean]
        exact ⟨_, rfl, .unwelcome hdecode hopens⟩
      · simp only [hopening, hwelcome, recorded, Handler.recorded, hclean]
        refine ⟨_, rfl, ?_⟩
        rcases hanswer : after.respondSuccess request (some (.capabilities capabilities)) with
          ⟨e | _, o'⟩
        · exact .unanswered hdecode hopens hanswer
        · exact .opened hdecode hopens hanswer
  · rw [hreceive]
    simp only [opening?, refuse, note, hclean]
    exact ⟨[], by rw [List.append_nil]; rfl, .absent hdecode⟩
  · rw [hreceive]
    simp only [hclean]
    exact ⟨[], by rw [List.append_nil], .broken hdecode he⟩

theorem unread_eq (s : Session σ) : s.unread = s.decoder.source.remaining.length :=
  List.length_append.symm

/-- Every message uses up bytes, so the bound on the number of messages is never what ends the
conversation. -/
theorem dispatch_spec (bound : Nat) (s : Session σ) (hbound : s.unread < bound)
    (earlier : List Callback) :
    ∃ calls, dispatch bound (s.recorded earlier) =
        ((dispatch bound s).1, (dispatch bound s).2.recorded (earlier ++ calls)) ∧
      Conversation s.decoder s.outbox calls (dispatch bound s).1
        (dispatch bound s).2.decoder (dispatch bound s).2.outbox ∧
      (dispatch bound s).2.problems = s.problems := by
  induction bound generalizing s earlier with
  | zero => exact absurd hbound (Nat.not_lt_zero _)
  | succ bound ih =>
    rw [dispatch, dispatch, receive_recorded]
    rcases s.receive_spec with ⟨m, d', hdecode, hreceive⟩ | ⟨d', hdecode, hreceive⟩ |
      ⟨e, d', hdecode, he, hreceive⟩
    · rw [hreceive]
      rcases hprocess : s.handler.process m (s.handlerState, announce m (arrived d' s.outbox)) with
        ⟨causes | flow, handlerState, after⟩
      · simp only [process, recorded, Handler.recorded, hprocess]
        exact ⟨_, rfl, .failed hdecode, trivial⟩
      · cases flow with
        | stop =>
          simp only [process, recorded, Handler.recorded, hprocess]
          exact ⟨_, rfl, .stopped hdecode, trivial⟩
        | proceed =>
          let next : Session σ := { s with decoder := d', handlerState, outbox := after }
          let call : Callback := .process m (announce m (arrived d' s.outbox)) after (.ok .proceed)
          have hnext : next.unread < bound := by
            have hlt := Decoder.length_remaining_decode_lt hdecode
            rw [unread_eq] at hbound ⊢
            exact Nat.lt_of_lt_of_le hlt (Nat.le_of_lt_succ hbound)
          obtain ⟨calls, hrecorded, hconversation, hproblems⟩ :=
            ih next hnext (earlier ++ [call])
          rw [List.append_assoc, List.singleton_append] at hrecorded
          simp only [process, recorded, Handler.recorded, hprocess]
          exact ⟨call :: calls, hrecorded, .proceeded hdecode hconversation, hproblems⟩
    · rw [hreceive]
      exact ⟨[], by rw [List.append_nil], .ended hdecode, rfl⟩
    · rw [hreceive]
      exact ⟨[], by rw [List.append_nil], .broken hdecode he, rfl⟩

theorem noteIfError_eq (s : Session σ) (result : Except Error Unit) :
    s.noteIfError result = { s with problems := errorOf result ++ s.problems } := by
  cases result <;> rfl

/-- Each half of the connection is closed once, and what goes wrong is noted. -/
theorem close_eq (s : Session σ) :
    s.close = { s with
      decoder := s.decoder.close.2, outbox := s.outbox.close.2
      problems := errorOf (s.outbox.close.1.mapError .io) ++
        errorOf (s.decoder.close.1.mapError .io) ++ s.problems } := by
  simp only [close, noteIfError_eq, List.append_assoc]

theorem close_recorded (s : Session σ) (calls : List Callback) :
    (s.recorded calls).close = s.close.recorded calls := by
  rw [close_eq, close_eq]
  rfl

/-! ## Streams stay open until the end -/

theorem alike_of_decode {d d' : Decoder} {result : Except Error Message}
    (h : d.decode = (result, d')) : d.source.feed.Alike d'.source.feed := by
  have halike := d.alike_decode
  rwa [h] at halike

theorem Opening.alike {d d' : Decoder} {o o' : Outbox} {calls : List Callback}
    {result : Except Error Unit} {noted : List Error} (h : Opening d o calls result noted d' o') :
    d.source.feed.Alike d'.source.feed := by
  cases h with
  | absent hdecode | broken hdecode | unfit hdecode | unwelcome hdecode | unanswered hdecode
  | opened hdecode => exact alike_of_decode hdecode

theorem Conversation.alike {d d' : Decoder} {o o' : Outbox} {calls : List Callback}
    {result : Except Error Unit} (h : Conversation d o calls result d' o') :
    d.source.feed.Alike d'.source.feed := by
  induction h with
  | ended hdecode | broken hdecode | failed hdecode | stopped hdecode =>
    exact alike_of_decode hdecode
  | proceeded hdecode _ ih => exact (alike_of_decode hdecode).trans ih

/-- At the end the stream of the client is closed, if it can be. -/
theorem Course.detached {d d' : Decoder} {o o' : Outbox} {calls : List Callback}
    {result : Except Error Unit} {noted : List Error} (h : Course d o calls result noted d' o')
    (hcloses : d.source.feed.refusal = none) : d'.source.feed.attached = false := by
  cases h with
  | refused hopening =>
    exact Feed.attached_close (hopening.alike.refusal_eq.trans hcloses)
  | served hopening hconversation =>
    have halike := hopening.alike.trans hconversation.alike
    exact Feed.attached_close (halike.refusal_eq.trans hcloses)

/-! ## Whole runs -/

/-- A session that was not run yet. -/
def fresh (peer : String) (d : Decoder) (o : Outbox) (handler : Handler σ) (handlerState : σ) :
    Session σ :=
  { peer, decoder := d, outbox := o, handler, handlerState }

theorem run_refused {s t : Session σ} {e : Error} (hcreated : s.state = .created)
    (h : ({ s with state := .opening } : Session σ).handshake = (.error e, t)) :
    s.run = (.error e, { t.close with state := .closed }) := by
  rw [run, if_neg (by simp [hcreated]), h]

theorem run_served {s t u : Session σ} (hcreated : s.state = .created)
    (h : ({ s with state := .opening } : Session σ).handshake = (.ok (), t))
    (hu : { t with state := .dispatching } = u) :
    s.run = ((dispatch (u.unread + 1) u).1, (dispatch (u.unread + 1) u).2.finish) := by
  rw [run, if_neg (by simp [hcreated]), h, ← hu]
  rfl

/-- What is left of a session that says farewell. -/
theorem finish_spec (s : Session σ) (hclean : s.problems = []) (earlier : List Callback) :
    ∃ after, (s.recorded earlier).finish = s.finish.recorded
        (earlier ++ [Callback.terminate (s.outbox.event "terminated" none).2 after]) ∧
      s.finish.decoder = s.decoder.close.2 ∧ s.finish.outbox = after.close.2 ∧
      s.finish.problems = errorOf (after.close.1.mapError .io) ++
        errorOf (s.decoder.close.1.mapError .io) ++ errorOf (s.outbox.event "terminated" none).1 ∧
      s.finish.state = .closed := by
  rcases hevent : s.outbox.event "terminated" none with ⟨result, o⟩
  rcases hterminate : s.handler.terminate (s.handlerState, o) with ⟨handlerState, after⟩
  let s' : Session σ := { s with
    state := .terminating, handlerState, outbox := after, problems := errorOf result }
  have hfinish : s.finish = { s'.close with state := .closed } := by
    cases result <;>
      simp only [finish, hevent, hterminate, noteIfError, note, hclean, errorOf, s']
  have hrecorded : (s.recorded earlier).finish =
      { (s'.recorded (earlier ++ [Callback.terminate o after])).close with state := .closed } := by
    cases result <;>
      simp only [finish, recorded, Handler.recorded, hevent, hterminate, noteIfError, note, hclean,
        errorOf, s']
  refine ⟨after, ?_, ?_⟩
  · rw [hrecorded, hfinish, close_recorded]
    rfl
  · rw [hfinish, close_eq s']
    exact ⟨rfl, rfl, rfl, rfl⟩

/-- The messages of a session that was opened, and its end. -/
theorem serve_spec (s : Session σ) (hclean : s.problems = []) (earlier : List Callback) :
    let t := (dispatch (s.unread + 1) s).2
    ∃ middle after,
      ((dispatch ((s.recorded earlier).unread + 1) (s.recorded earlier)).1,
          (dispatch ((s.recorded earlier).unread + 1) (s.recorded earlier)).2.finish) =
        ((dispatch (s.unread + 1) s).1, t.finish.recorded
          (earlier ++ middle ++ [Callback.terminate (t.outbox.event "terminated" none).2 after])) ∧
      Conversation s.decoder s.outbox middle (dispatch (s.unread + 1) s).1 t.decoder t.outbox ∧
      t.finish.decoder = t.decoder.close.2 ∧ t.finish.outbox = after.close.2 ∧
      t.finish.problems = errorOf (after.close.1.mapError .io) ++
        errorOf (t.decoder.close.1.mapError .io) ++ errorOf (t.outbox.event "terminated" none).1 ∧
      t.finish.state = .closed := by
  intro t
  obtain ⟨middle, hdispatch, hconversation, hproblems⟩ :=
    dispatch_spec (s.unread + 1) s (Nat.lt_succ_self _) earlier
  obtain ⟨after, hfinish, hrest⟩ :=
    finish_spec t (hproblems.trans hclean) (earlier ++ middle)
  refine ⟨middle, after, ?_, hconversation, hrest⟩
  have hunread : (s.recorded earlier).unread = s.unread := rfl
  rw [hunread, hdispatch]
  exact congrArg _ hfinish

/-- The calls are at most one welcome, then messages, then at most one farewell. -/
structure InOrder (calls : List Callback) (first middle last : List Callback) : Prop where
  calls_eq : calls = first ++ middle ++ last
  length_first : first.length ≤ 1
  length_last : last.length ≤ 1
  welcome_of_mem : ∀ c ∈ first, ∃ arguments before after answer,
    c = .welcome arguments before after answer
  process_of_mem : ∀ c ∈ middle, ∃ m before after answer, c = .process m before after answer
  terminate_of_mem : ∀ c ∈ last, ∃ before after, c = .terminate before after

theorem Opening.welcomes {d d' : Decoder} {o o' : Outbox} {calls : List Callback}
    {result : Except Error Unit} {noted : List Error} (h : Opening d o calls result noted d' o') :
    calls.length ≤ 1 ∧ ∀ c ∈ calls, ∃ arguments before after answer,
      c = .welcome arguments before after answer := by
  cases h with
  | absent | broken | unfit => exact ⟨Nat.zero_le _, fun _ hc => absurd hc List.not_mem_nil⟩
  | unwelcome | unanswered | opened =>
    exact ⟨Nat.le_refl _, fun _ hc => ⟨_, _, _, _, List.mem_singleton.mp hc⟩⟩

theorem Opening.noted_of_ok {d d' : Decoder} {o o' : Outbox} {calls : List Callback}
    {noted : List Error} (h : Opening d o calls (.ok ()) noted d' o') : noted = [] := by
  cases h
  rfl

theorem Conversation.processes {d d' : Decoder} {o o' : Outbox} {calls : List Callback}
    {result : Except Error Unit} (h : Conversation d o calls result d' o') :
    ∀ c ∈ calls, ∃ m before after answer, c = .process m before after answer := by
  induction h with
  | ended | broken => exact fun _ hc => absurd hc List.not_mem_nil
  | failed | stopped => exact fun _ hc => ⟨_, _, _, _, List.mem_singleton.mp hc⟩
  | proceeded _ _ ih =>
    intro c hc
    rcases List.mem_cons.mp hc with rfl | hc
    · exact ⟨_, _, _, _, rfl⟩
    · exact ih c hc

theorem Course.inOrder {d d' : Decoder} {o o' : Outbox} {calls : List Callback}
    {result : Except Error Unit} {noted : List Error} (h : Course d o calls result noted d' o') :
    ∃ first middle last, InOrder calls first middle last := by
  cases h with
  | refused hopening =>
    obtain ⟨hlength, hwelcome⟩ := hopening.welcomes
    exact ⟨calls, [], [], by simp, hlength, Nat.zero_le _, hwelcome, by simp, by simp⟩
  | served hopening hconversation =>
    obtain ⟨hlength, hwelcome⟩ := hopening.welcomes
    exact ⟨_, _, _, rfl, hlength, Nat.le_refl _, hwelcome, hconversation.processes,
      fun _ hc => ⟨_, _, List.mem_singleton.mp hc⟩⟩

/-- The calls of the handler in a run are those of a course. -/
theorem run_spec (peer : String) (d : Decoder) (o : Outbox) (handler : Handler σ)
    (handlerState : σ) :
    let s := fresh peer d o handler handlerState
    ∃ calls, (s.recorded []).run = (s.run.1, s.run.2.recorded calls) ∧
      Course d o calls s.run.1 s.run.2.problems s.run.2.decoder s.run.2.outbox ∧
      s.run.2.state = .closed := by
  intro s
  let opening : Session σ := { s with state := .opening }
  obtain ⟨calls, hrecorded, hopening⟩ := handshake_spec opening rfl []
  rw [List.nil_append] at hrecorded
  rcases hhandshake : opening.handshake with ⟨e | _, t⟩
  · rw [hhandshake] at hrecorded hopening
    refine ⟨calls, ?_, ?_⟩
    · rw [run_refused (s := s) rfl hhandshake,
        run_refused (s := s.recorded []) (t := t.recorded calls) rfl hrecorded,
        close_recorded]
      rfl
    · rw [run_refused (s := s) rfl hhandshake, close_eq t]
      exact ⟨.refused hopening, rfl⟩
  · rw [hhandshake] at hrecorded hopening
    have hclean : t.problems = [] := hopening.noted_of_ok
    generalize hu : ({ t with state := .dispatching } : Session σ) = u
    have huclean : u.problems = [] := hu ▸ hclean
    obtain ⟨middle, after, hserved, hconversation, hdecoder, houtbox, hproblems, hclosed⟩ :=
      serve_spec u huclean calls
    have hstate : ({ t.recorded calls with state := .dispatching } : Session (σ × List Callback)) =
        u.recorded calls := by
      rw [← hu]
      rfl
    have hrun := run_served (s := s.recorded []) (t := t.recorded calls) rfl hrecorded hstate
    dsimp only at hopening
    rw [hclean] at hopening
    rw [run_served (s := s) rfl hhandshake hu, hdecoder, houtbox, hproblems]
    refine ⟨_, hrun.trans hserved, .served hopening ?_, hclosed⟩
    rw [← hu] at hconversation ⊢
    exact hconversation

/-- Whatever the client sends, however reads and writes fail and whatever the handler does, the
handler of a session that is run sees a welcome, messages and a farewell in this order, as far as
the session gets; the session ends closed, and to run it again does nothing. -/
theorem run_course (peer : String) (d : Decoder) (o : Outbox) (handler : Handler σ)
    (handlerState : σ) :
    let s := fresh peer d o handler handlerState
    ∃ calls, (s.recorded []).run = (s.run.1, s.run.2.recorded calls) ∧
      Course d o calls s.run.1 s.run.2.problems s.run.2.decoder s.run.2.outbox ∧
      (∃ first middle last, InOrder calls first middle last) ∧
      (d.source.feed.refusal = none → s.run.2.decoder.source.feed.attached = false) ∧
      s.run.2.state = .closed ∧
      ∀ t : Session σ, t.state = s.run.2.state → t.run = (.error .alreadyRun, t) := by
  intro s
  obtain ⟨calls, hrun, hcourse, hclosed⟩ := run_spec peer d o handler handlerState
  refine ⟨calls, hrun, hcourse, hcourse.inOrder, hcourse.detached, hclosed, fun t ht => ?_⟩
  rw [run, if_pos (by simp [ht, hclosed, s])]

end DebugAdapter.Session
