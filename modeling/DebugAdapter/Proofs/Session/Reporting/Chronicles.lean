import DebugAdapter.Proofs.Framing.Closing
import DebugAdapter.Proofs.Session.Lifecycle
import DebugAdapter.Proofs.Text.Utf8

/-! # Chronicles

Many things can go wrong in one session: a frame cannot be read, the first message opens nothing, the
handler gives up, a message cannot be sent, a half of the connection cannot be closed. A chronicle lists
what happened, in the order of time. -/

namespace DebugAdapter.Session

open Protocol

variable {σ : Type}

/-! ## Moments -/

/-- What happens in a session, and how it turns out. -/
inductive Moment where
  /-- The first message is read, nothing at the end of the stream. -/
  | first (outcome : Except Error (Option Message))
  /-- The handler is asked what it can do. -/
  | welcomed (answer : Except (List String) Capabilities)
  /-- The opening request is answered. -/
  | answered (outcome : Except Error Unit)
  /-- A later message is read. -/
  | next (outcome : Except Error (Option Message))
  /-- The handler processes a message. -/
  | processed (answer : Except (List String) Flow)
  /-- The client is told that the session is over. -/
  | announced (outcome : Except Error Unit)
  | readerClosed (outcome : Except IoError Unit)
  | writerClosed (outcome : Except IoError Unit)

namespace Moment

/-- Why the session was not opened. -/
def refusal? : Moment → Option Error
  | first (.ok m) =>
    match opening? m with
    | .error reason => some (.handshake reason)
    | .ok _ => none
  | welcomed (.error causes) => some (.handshake (chainText causes))
  | _ => none

/-- The moments that come before the conversation. -/
def isOpening : Moment → Bool
  | first _ | welcomed _ | answered _ => true
  | _ => false

/-- The moments of the conversation. -/
def isTalk : Moment → Bool
  | next _ | processed _ => true
  | _ => false

theorem isOpening_of_refusal {moment : Moment} {e : Error} (h : moment.refusal? = some e) :
    moment.isOpening = true := by
  cases moment with
  | first | welcomed | answered => rfl
  | next | processed | announced | readerClosed | writerClosed => exact nomatch h

/-- What ends the conversation. -/
def fatal? : Moment → Option Error
  | first (.error e) | answered (.error e) | next (.error e) => some e
  | processed (.error causes) => some (.handler causes)
  | moment => moment.refusal?

/-- Why the client was not told. -/
def unannounced? : Moment → Option Error
  | announced (.error e) => some e
  | _ => none

def readerFailure? : Moment → Option Error
  | readerClosed (.error e) => some (.io e)
  | _ => none

def writerFailure? : Moment → Option Error
  | writerClosed (.error e) => some (.io e)
  | _ => none

theorem not_noted_of_isOpening {moment : Moment} (h : moment.isOpening = true) :
    moment.unannounced? = none ∧ moment.readerFailure? = none ∧ moment.writerFailure? = none := by
  cases moment with
  | first | welcomed | answered => exact ⟨rfl, rfl, rfl⟩
  | next | processed | announced | readerClosed | writerClosed => exact absurd h Bool.false_ne_true

theorem not_noted_of_isTalk {moment : Moment} (h : moment.isTalk = true) :
    moment.refusal? = none ∧ moment.unannounced? = none ∧ moment.readerFailure? = none ∧
      moment.writerFailure? = none := by
  cases moment with
  | next | processed => exact ⟨rfl, rfl, rfl, rfl⟩
  | first | welcomed | answered | announced | readerClosed | writerClosed =>
    exact absurd h Bool.false_ne_true

theorem not_isOpening_of_isTalk {moment : Moment} (h : moment.isTalk = true) :
    moment.isOpening = false := by
  cases moment with
  | next | processed | announced | readerClosed | writerClosed => rfl
  | first | welcomed | answered => exact absurd h Bool.false_ne_true

end Moment

/-- The first failure that ends the conversation, if there is one. -/
def verdict (course : List Moment) : Except Error Unit :=
  match course.findSome? Moment.fatal? with
  | some e => .error e
  | none => .ok ()

/-- What a session notes: why it was not opened, why the client was not told, and which halves of the
connection were not closed. -/
def noted (course : List Moment) : List Error :=
  course.filterMap Moment.refusal? ++ course.filterMap Moment.unannounced? ++
    course.filterMap Moment.readerFailure? ++ course.filterMap Moment.writerFailure?

/-! ## Chronicles -/

/-- The moments in which a session is opened, or not. -/
inductive Greeting : Session σ → List Moment → Session σ → Prop where
  | broken {s t e} (hreceive : s.receive = (.error e, t)) : Greeting s [.first (.error e)] t
  | unfit {s t m reason} (hreceive : s.receive = (.ok m, t)) (hunfit : opening? m = .error reason) :
      Greeting s [.first (.ok m)] t
  | unwelcome {s t m request arguments causes handlerState outbox}
      (hreceive : s.receive = (.ok m, t)) (hfit : opening? m = .ok (request, arguments))
      (hwelcome : t.handler.welcome arguments (t.handlerState, t.outbox) =
        (.error causes, handlerState, outbox)) :
      Greeting s [.first (.ok m), .welcomed (.error causes)] { t with handlerState, outbox }
  | answered {s t m request arguments capabilities handlerState outbox outcome outbox'}
      (hreceive : s.receive = (.ok m, t)) (hfit : opening? m = .ok (request, arguments))
      (hwelcome : t.handler.welcome arguments (t.handlerState, t.outbox) =
        (.ok capabilities, handlerState, outbox))
      (hanswer : outbox.respondSuccess request (some (.capabilities capabilities)) =
        (outcome, outbox')) :
      Greeting s [.first (.ok m), .welcomed (.ok capabilities), .answered outcome]
        { t with handlerState, outbox := outbox' }

/-- The moments in which messages are read and processed. -/
inductive Talk : Session σ → List Moment → Session σ → Prop where
  | broken {s t e} (hreceive : s.receive = (.error e, t)) : Talk s [.next (.error e)] t
  | ended {s t} (hreceive : s.receive = (.ok none, t)) : Talk s [.next (.ok none)] t
  | failed {s t m causes handlerState outbox} (hreceive : s.receive = (.ok (some m), t))
      (hprocess : t.handler.process m (t.handlerState, announce m t.outbox) =
        (.error causes, handlerState, outbox)) :
      Talk s [.next (.ok (some m)), .processed (.error causes)] { t with handlerState, outbox }
  | stopped {s t m handlerState outbox} (hreceive : s.receive = (.ok (some m), t))
      (hprocess : t.handler.process m (t.handlerState, announce m t.outbox) =
        (.ok .stop, handlerState, outbox)) :
      Talk s [.next (.ok (some m)), .processed (.ok .stop)] { t with handlerState, outbox }
  | proceeded {s t m handlerState outbox moments u} (hreceive : s.receive = (.ok (some m), t))
      (hprocess : t.handler.process m (t.handlerState, announce m t.outbox) =
        (.ok .proceed, handlerState, outbox))
      (hrest : Talk { t with handlerState, outbox } moments u) :
      Talk s (.next (.ok (some m)) :: .processed (.ok .proceed) :: moments) u

/-- The moments in which the connection is closed. -/
def closing (s : Session σ) : List Moment :=
  [.readerClosed s.decoder.close.1, .writerClosed s.outbox.close.1]

/-- The session whose connection was closed. -/
def shut (s : Session σ) : Session σ :=
  { s with decoder := s.decoder.close.2, outbox := s.outbox.close.2, state := .closed }

/-- All moments of a session. What the session notes is left out. -/
inductive Chronicle (s : Session σ) : List Moment → Session σ → Prop where
  | refused {opening t} (hgreeting : Greeting { s with state := .opening } opening t)
      (hrefused : .answered (.ok ()) ∉ opening) : Chronicle s (opening ++ t.closing) t.shut
  | served {opening t talk u outcome outbox handlerState outbox'}
      (hgreeting : Greeting { s with state := .opening } opening t)
      (hopened : .answered (.ok ()) ∈ opening)
      (htalk : Talk { t with state := .dispatching } talk u)
      (hannounced : u.outbox.event "terminated" none = (outcome, outbox))
      (hterminate : u.handler.terminate (u.handlerState, outbox) = (handlerState, outbox')) :
      Chronicle s
        (opening ++ talk ++
          .announced outcome :: ({ u with handlerState, outbox := outbox' } : Session σ).closing)
        ({ u with handlerState, outbox := outbox' } : Session σ).shut

/-! ## Verdicts -/

theorem verdict_append {first second : List Moment} (h : verdict first = .ok ()) :
    verdict (first ++ second) = verdict second := by
  unfold verdict at h ⊢
  rw [List.findSome?_append]
  cases hfirst : first.findSome? Moment.fatal? with
  | none => rfl
  | some e => simp [hfirst] at h

theorem verdict_append_of_ok {first second : List Moment} (h : verdict second = .ok ()) :
    verdict (first ++ second) = verdict first := by
  unfold verdict at h ⊢
  rw [List.findSome?_append]
  cases hfirst : first.findSome? Moment.fatal? with
  | none =>
    cases hsecond : second.findSome? Moment.fatal? with
    | none => rfl
    | some e => simp [hsecond] at h
  | some e => rfl

theorem verdict_append_of_error {first second : List Moment} {e : Error}
    (h : verdict first = .error e) : verdict (first ++ second) = .error e := by
  unfold verdict at h ⊢
  rw [List.findSome?_append]
  cases hfirst : first.findSome? Moment.fatal? with
  | none => simp [hfirst] at h
  | some e' => simpa [hfirst] using h

theorem refusals_of_not_opening {moments : List Moment}
    (h : ∀ moment ∈ moments, moment.isOpening = false) : moments.filterMap Moment.refusal? = [] := by
  rw [List.filterMap_eq_nil_iff]
  intro moment hmem
  cases hrefusal : moment.refusal? with
  | none => rfl
  | some e => exact nomatch (h moment hmem).symm.trans (Moment.isOpening_of_refusal hrefusal)

/-! ## What the parts of a chronicle hold -/

theorem Greeting.isOpening {s t : Session σ} {opening : List Moment} (h : Greeting s opening t) :
    ∀ moment ∈ opening, moment.isOpening = true := by
  cases h <;> simp [Moment.isOpening]

/-- A session that gets as far as its answer is opened if and only if the answer is sent. -/
theorem verdict_answered {m : Option Message} {fit : Request × InitializeArguments}
    (hfit : opening? m = .ok fit) (capabilities : Capabilities) (outcome : Except Error Unit) :
    verdict [.first (.ok m), .welcomed (.ok capabilities), .answered outcome] = outcome := by
  cases outcome <;> simp [verdict, List.findSome?, Moment.fatal?, Moment.refusal?, hfit]

theorem Greeting.noted_append {s t : Session σ} {opening : List Moment} (h : Greeting s opening t)
    {rest : List Moment} (hrest : ∀ moment ∈ rest, moment.isOpening = false) :
    noted (opening ++ rest) = opening.filterMap Moment.refusal? ++ noted rest := by
  have hnone := fun moment hmem => Moment.not_noted_of_isOpening (h.isOpening moment hmem)
  have hannounced := List.filterMap_eq_nil_iff.mpr fun moment hmem => (hnone moment hmem).1
  have hreader := List.filterMap_eq_nil_iff.mpr fun moment hmem => (hnone moment hmem).2.1
  have hwriter := List.filterMap_eq_nil_iff.mpr fun moment hmem => (hnone moment hmem).2.2
  simp [noted, List.filterMap_append, hannounced, hreader, hwriter, refusals_of_not_opening hrest]

theorem Greeting.verdict_eq_ok_iff {s t : Session σ} {opening : List Moment}
    (h : Greeting s opening t) : verdict opening = .ok () ↔ .answered (.ok ()) ∈ opening := by
  cases h with
  | broken | unfit | unwelcome =>
    simp_all [verdict, List.findSome?, Moment.fatal?, Moment.refusal?]
  | answered _ hfit =>
    rw [verdict_answered hfit]
    simp [eq_comm]

/-- A refusal is what the opening fails with. -/
theorem Greeting.refusal_eq {s t : Session σ} {opening : List Moment} (h : Greeting s opening t)
    {e : Error} (he : e ∈ opening.filterMap Moment.refusal?) :
    opening.filterMap Moment.refusal? = [e] ∧ verdict opening = .error e := by
  cases h with
  | broken => simp [List.filterMap, Moment.refusal?] at he
  | unfit _ hunfit | unwelcome _ hfit =>
    simp_all [verdict, List.findSome?, List.filterMap, Moment.fatal?, Moment.refusal?]
  | answered _ hfit => simp [List.filterMap, Moment.refusal?, hfit] at he

theorem Greeting.not_refused {s t : Session σ} {opening : List Moment} (h : Greeting s opening t)
    {e : Error} (he : .first (.error e) ∈ opening ∨ .answered (.error e) ∈ opening) :
    opening.filterMap Moment.refusal? = [] ∧ verdict opening = .error e := by
  cases h with
  | broken | unfit | unwelcome =>
    simp_all [verdict, List.findSome?, List.filterMap, Moment.fatal?, Moment.refusal?]
  | answered _ hfit =>
    rw [verdict_answered hfit]
    simp_all [List.filterMap, Moment.refusal?]

theorem Talk.isTalk {s t : Session σ} {talk : List Moment} (h : Talk s talk t) :
    ∀ moment ∈ talk, moment.isTalk = true := by
  induction h with
  | broken | ended | failed | stopped => simp [Moment.isTalk]
  | proceeded _ _ _ ih => simpa [Moment.isTalk] using ih

theorem closing_not_opening (s : Session σ) : ∀ moment ∈ s.closing, moment.isOpening = false := by
  simp [closing, Moment.isOpening]

theorem Talk.not_opening {s t : Session σ} {talk : List Moment} (h : Talk s talk t)
    (outcome : Except Error Unit) (v : Session σ) :
    ∀ moment ∈ talk ++ .announced outcome :: v.closing, moment.isOpening = false := by
  intro moment hmem
  rcases List.mem_append.mp hmem with hmem | hmem
  · exact Moment.not_isOpening_of_isTalk (h.isTalk moment hmem)
  · rcases List.mem_cons.mp hmem with rfl | hmem
    · rfl
    · exact v.closing_not_opening moment hmem

theorem Talk.noted_append {s t : Session σ} {talk : List Moment} (h : Talk s talk t)
    (rest : List Moment) : noted (talk ++ rest) = noted rest := by
  have hnone := fun moment hmem => Moment.not_noted_of_isTalk (h.isTalk moment hmem)
  have hrefusal := List.filterMap_eq_nil_iff.mpr fun moment hmem => (hnone moment hmem).1
  have hannounced := List.filterMap_eq_nil_iff.mpr fun moment hmem => (hnone moment hmem).2.1
  have hreader := List.filterMap_eq_nil_iff.mpr fun moment hmem => (hnone moment hmem).2.2.1
  have hwriter := List.filterMap_eq_nil_iff.mpr fun moment hmem => (hnone moment hmem).2.2.2
  simp [noted, List.filterMap_append, hrefusal, hannounced, hreader, hwriter]

/-- A conversation goes well if the handler ends it or the stream does. -/
theorem Talk.verdict_eq_ok_iff {s t : Session σ} {talk : List Moment} (h : Talk s talk t) :
    verdict talk = .ok () ↔ .processed (.ok .stop) ∈ talk ∨ .next (.ok none) ∈ talk := by
  induction h with
  | broken | ended | failed | stopped =>
    simp [verdict, List.findSome?, Moment.fatal?, Moment.refusal?]
  | @proceeded _ _ m _ _ moments _ _ _ _ ih =>
    have hfirst : verdict [.next (.ok (some m)), .processed (.ok .proceed)] = .ok () := rfl
    have hverdict : verdict (.next (.ok (some m)) :: .processed (.ok .proceed) :: moments) =
        verdict moments := verdict_append hfirst
    rw [hverdict, ih]
    simp

theorem alike_receive {s t : Session σ} {result : Except Error (Option Message)}
    (h : s.receive = (result, t)) : s.decoder.source.feed.Alike t.decoder.source.feed := by
  have hdecoder : s.receive.2.decoder = s.decoder.decode.2 := by
    unfold receive
    dsimp only
    split <;> rfl
  have halike := s.decoder.alike_decode
  rwa [← hdecoder, h] at halike

theorem Greeting.alike {s t : Session σ} {opening : List Moment} (h : Greeting s opening t) :
    s.decoder.source.feed.Alike t.decoder.source.feed := by
  cases h with
  | broken hreceive | unfit hreceive => exact alike_receive hreceive
  | unwelcome hreceive | answered hreceive => exact (alike_receive hreceive :)

theorem receive_none {s t : Session σ} (hattached : s.decoder.source.feed.attached = true)
    (h : s.receive = (.ok none, t)) : t.unread = 0 := by
  rw [unread_eq]
  rcases s.receive_spec with ⟨m, d', hdecode, hreceive⟩ | ⟨d', hdecode, hreceive⟩ |
    ⟨e, d', hdecode, he, hreceive⟩ <;> rw [hreceive] at h
  · exact nomatch (Prod.mk.inj h).1
  · rw [← (Prod.mk.inj h).2]
    exact List.length_eq_zero_iff.mpr
      (Framing.Decoder.remaining_of_decode_closed hattached hdecode).2
  · exact nomatch (Prod.mk.inj h).1

/-- The stream ends a conversation between two frames. -/
theorem Talk.unread_of_ended {s t : Session σ} {talk : List Moment} (h : Talk s talk t)
    (hattached : s.decoder.source.feed.attached = true) (hended : .next (.ok none) ∈ talk) :
    t.unread = 0 := by
  induction h with
  | broken | failed | stopped => simp at hended
  | ended hreceive => exact receive_none hattached hreceive
  | proceeded hreceive _ _ ih =>
    exact ih ((alike_receive hreceive).attached_eq.trans hattached) (by simpa using hended)

end DebugAdapter.Session
