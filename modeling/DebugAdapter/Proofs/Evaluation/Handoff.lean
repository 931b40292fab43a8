import Mathlib.Data.List.Induction
import DebugAdapter.Proofs.Evaluation.Forwarding

/-! # Handing a stop over

A thread that stops waits on a channel until it is told to go on, or until nobody is left who could
tell it. Meanwhile its stop passes from the engine to the pump, from the pump into the table of the
threads that are stopped, and from there to the session. This module states in which order that
happens when one stop follows the other, and draws the conclusions from the order alone. -/

namespace DebugAdapter.Evaluation

open Debuggee Protocol Session

/-! ## What is seen of a stop -/

/-- The report of a stop with the channel on which the thread waits. -/
def Item.stop? : Item → Option (DebugStop × Channel)
  | .stopped report c => some (report, c)
  | _ => none

/-- A request asks a thread to go on. -/
def Continues (request : Request) (thread : Int64) : Prop :=
  request.command = "continue" ∧
    ∃ arguments, request.arguments = some (.resume arguments) ∧ arguments.threadId = thread

/-- The event that tells the client that a thread goes on. -/
def continuation (thread : Int64) : Message :=
  .event (.ofBody (.continued { threadId := thread, allThreadsContinued := some false }))

/-- What the client is told when a thread goes on: the answer to its request, and the event. -/
def confirmations (request : Request) (thread : Int64) : List Message :=
  [.response (.ok request (some (.resumed { allThreadsContinued := some false }))),
    continuation thread]

/-- A message that the session posted, with the outcome. -/
def Happening.sessionPost? : Happening → Option (Message × Except Error Unit)
  | .posted .session m result _ => some (m, result)
  | _ => none

/-- What the session posted. -/
def sessionPosts (log : List Happening) : List (Message × Except Error Unit) :=
  log.filterMap Happening.sessionPost?

theorem sessionPosts_append (log more : List Happening) :
    sessionPosts (log ++ more) = sessionPosts log ++ sessionPosts more := List.filterMap_append

theorem posted_of_mem_sessionPosts {log : List Happening} {m : Message} {result : Except Error Unit}
    (h : (m, result) ∈ sessionPosts log) : ∃ bytes, .posted .session m result bytes ∈ log := by
  obtain ⟨x, hx, hpost⟩ := List.mem_filterMap.mp h
  unfold Happening.sessionPost? at hpost
  split at hpost
  · cases hpost
    exact ⟨_, hx⟩
  · cases hpost

/-- Messages that got through. -/
def through (messages : List Message) : List (Message × Except Error Unit) :=
  messages.map fun m => (m, .ok ())

/-- The next that the session posts is what tells the client that a thread goes on, and all of it
gets through. -/
def Confirmed (request : Request) (thread : Int64) (log : List Happening) : Prop :=
  through (confirmations request thread) <+: sessionPosts log

/-- Nothing is left to send of what the client is told. -/
theorem Confirmed.of_sent {request : Request} {thread : Int64} {sent : List Message}
    {log : List Happening} (hsent : confirmations request thread = sent ++ [])
    (hposts : sessionPosts log = through sent) : Confirmed request thread log :=
  ⟨[], by rw [hsent, hposts, List.append_nil, List.append_nil]⟩

/-- A request was accepted for the stop on a channel: the stop was reported and put into the table
before, and the request asks its thread to go on. -/
structure Accepted (c : Channel) (request : Request) (event : StopEvent)
    (before : List Happening) : Prop where
  recorded : ∃ report, event.thread = report.thread ∧
    [.enqueued (.stopped report c), .recorded event].Sublist before
  resume_eq : event.resume = c
  continues : Continues request event.thread

/-- The stop on a channel was released: a request was accepted for it, and after that the client
was told so. -/
def Released (c : Channel) (log : List Happening) : Prop :=
  ∃ request event before after, log = before ++ .accepted request event :: after ∧
    Accepted c request event before ∧ Confirmed request event.thread after

theorem Released.append {c : Channel} {log : List Happening} (h : Released c log)
    (more : List Happening) : Released c (log ++ more) := by
  obtain ⟨request, event, before, after, rfl, haccepted, hconfirmed⟩ := h
  refine ⟨request, event, before, after ++ more, ?_, haccepted, ?_⟩
  · rw [List.append_assoc, List.cons_append]
  · rw [Confirmed, sessionPosts_append]
    exact hconfirmed.trans (List.prefix_append _ _)

/-- How a wait on a channel ended. -/
def Happening.returnOn? (c : Channel) : Happening → Option Bool
  | .returned d goesOn => if d = c then some goesOn else none
  | _ => none

/-- How the waits on a channel ended. -/
def returnsOn (c : Channel) (log : List Happening) : List Bool :=
  log.filterMap (Happening.returnOn? c)

theorem returnsOn_append (c : Channel) (log more : List Happening) :
    returnsOn c (log ++ more) = returnsOn c log ++ returnsOn c more := List.filterMap_append

/-- The channel of a stop for which a request was accepted. -/
def Happening.acceptance? : Happening → Option Channel
  | .accepted _ event => some event.resume
  | _ => none

/-- The channels of the stops for which requests were accepted. -/
def acceptances (log : List Happening) : List Channel := log.filterMap Happening.acceptance?

/-! ## The order of things -/

/-- How far a stop has got. -/
inductive Stage where
  | reported
  | recorded (event : StopEvent)
  /-- A request was accepted, and the client is still to be told the rest. -/
  | accepted (request : Request) (event : StopEvent) (unsent : List Message)
  /-- The client could not be told. -/
  | failed
  | resumed

/-- What the thread is about on which the program is evaluated. -/
inductive Phase where
  /-- It goes on after so many stops. -/
  | going (stops : Nat)
  | waiting (report : DebugStop) (c : Channel) (stage : Stage)

namespace Phase

/-- How many stops are over. -/
def stops : Phase → Nat
  | .going n => n
  | .waiting _ c _ => c

/-- Whether the client is being told that a thread goes on. -/
def IsConfirming : Phase → Prop
  | .waiting _ _ (.accepted _ _ _) => True
  | _ => False

/-- How many stops there were for which no more request can be accepted. -/
def settled : Phase → Nat
  | .going n => n
  | .waiting _ c .reported | .waiting _ c (.recorded _) => c
  | .waiting _ c _ => c + 1

end Phase

/-- Nothing that hands a stop over. -/
def Happening.IsBeside : Happening → Prop
  | .handled _ | .posted _ _ _ _ | .taken _ => True
  | .enqueued item => item.stop? = none
  | _ => False

/-- One thing that happens after the other. -/
inductive Advance : Phase → Happening → Phase → Prop where
  | beside {phase x} (hx : x.IsBeside) (hpost : phase.IsConfirming → x.sessionPost? = none) :
      Advance phase x phase
  | report {report c} :
      Advance (.going c) (.enqueued (.stopped report c)) (.waiting report c .reported)
  | record {report c event} (hthread : event.thread = report.thread) (hresume : event.resume = c) :
      Advance (.waiting report c .reported) (.recorded event)
        (.waiting report c (.recorded event))
  | accept {report c request event} (hthread : event.thread = report.thread)
      (hresume : event.resume = c) (hrequest : Continues request event.thread) :
      Advance (.waiting report c (.recorded event)) (.accepted request event)
        (.waiting report c (.accepted request event (confirmations request event.thread)))
  | confirm {report c request event m unsent bytes} :
      Advance (.waiting report c (.accepted request event (m :: unsent)))
        (.posted .session m (.ok ()) bytes) (.waiting report c (.accepted request event unsent))
  | fail {report c request event m unsent e bytes} :
      Advance (.waiting report c (.accepted request event (m :: unsent)))
        (.posted .session m (.error e) bytes) (.waiting report c .failed)
  | resume {report c request event} :
      Advance (.waiting report c (.accepted request event [])) (.resumed c)
        (.waiting report c .resumed)
  | goOn {report c} : Advance (.waiting report c .resumed) (.returned c true) (.going (c + 1))
  /-- The stop was lost before any request for it. -/
  | forget {report c event} :
      Advance (.waiting report c (.recorded event)) (.returned c false) (.going (c + 1))
  | refuse {report c} : Advance (.waiting report c .failed) (.returned c false) (.going (c + 1))

/-- What happens from one phase to another. -/
inductive Passage : Phase → List Happening → Phase → Prop where
  | nil {p} : Passage p [] p
  | cons {p x q log r} (h : Advance p x q) (hrest : Passage q log r) : Passage p (x :: log) r

namespace Passage

variable {p q r : Phase} {x : Happening} {log more before after : List Happening}

theorem append (h : Passage p log q) (hmore : Passage q more r) : Passage p (log ++ more) r := by
  induction h with
  | nil => exact hmore
  | cons hstep _ ih => exact .cons hstep (ih hmore)

theorem single (h : Advance p x q) : Passage p [x] q := .cons h .nil

/-- Whatever hands no stop over may happen at any time, but not what the session posts while the
client is being told that a thread goes on. -/
theorem of_beside (h : ∀ x ∈ log, x.IsBeside)
    (hposts : p.IsConfirming → ∀ x ∈ log, x.sessionPost? = none) : Passage p log p := by
  induction log with
  | nil => exact .nil
  | cons x log ih =>
    obtain ⟨hx, hlog⟩ := List.forall_mem_cons.mp h
    exact .cons (.beside hx fun hp => hposts hp x List.mem_cons_self)
      (ih hlog fun hp y hy => hposts hp y (List.mem_cons_of_mem _ hy))

theorem split (h : Passage p (log ++ more) r) : ∃ q, Passage p log q ∧ Passage q more r := by
  induction log generalizing p with
  | nil => exact ⟨p, .nil, h⟩
  | cons x log ih =>
    cases h with
    | cons hstep hrest =>
      obtain ⟨q, hlog, hmore⟩ := ih hrest
      exact ⟨q, .cons hstep hlog, hmore⟩

/-- What is known before and after something that happened. -/
theorem around (h : Passage p (before ++ x :: after) r) :
    ∃ q q', Passage p before q ∧ Advance q x q' ∧ Passage q' after r := by
  obtain ⟨q, hbefore, hafter⟩ := h.split
  cases hafter with
  | cons hstep hrest => exact ⟨q, _, hbefore, hstep, hrest⟩

/-- What holds at the beginning and stays true with everything that happens. -/
theorem induction_last {P : Phase → List Happening → Prop} (h : Passage p log q) (start : P p [])
    (step : ∀ log q x r, P q log → Advance q x r → P r (log ++ [x])) : P q log := by
  induction log using List.reverseRecOn generalizing q with
  | nil =>
    cases h
    exact start
  | append_singleton log x ih =>
    obtain ⟨m, m', hlog, hstep, hnil⟩ := h.around
    cases hnil
    exact step log m x q (ih hlog) hstep

end Passage

/-! ## One stop after the other -/

section Order

variable {p q r : Phase} {x : Happening} {log more before after : List Happening} {c : Nat}

theorem Advance.stops_le (h : Advance p x q) : p.stops ≤ q.stops := by
  cases h with
  | beside | report | record | accept | confirm | fail | resume => exact Nat.le_refl _
  | goOn | forget | refuse => exact Nat.le_succ _

theorem Passage.stops_le (h : Passage p log q) : p.stops ≤ q.stops := by
  induction h with
  | nil => exact Nat.le_refl _
  | cons hstep _ ih => exact Nat.le_trans hstep.stops_le ih

/-- Only the wait for the stop at hand can end, and then the stop is over. -/
theorem Advance.returnOn (h : Advance p x q) (c : Channel) :
    x.returnOn? c = none ∨ p.stops = c ∧ q.stops = c + 1 := by
  cases h with
  | beside hx =>
    cases x with
    | returned => exact hx.elim
    | _ => exact .inl rfl
  | goOn | forget | refuse =>
    rw [Happening.returnOn?]
    split
    · rename_i heq
      exact .inr ⟨heq, congrArg (· + 1) heq⟩
    · exact .inl rfl
  | _ => exact .inl rfl

theorem returnsOn_cons_of_none (h : x.returnOn? c = none) :
    returnsOn c (x :: log) = returnsOn c log := List.filterMap_cons_none h

/-- No wait ends that has not begun, or that is over. -/
theorem Passage.returnsOn_eq_nil (h : Passage p log q) (hc : c < p.stops ∨ q.stops ≤ c) :
    returnsOn c log = [] := by
  induction h with
  | nil => rfl
  | cons hstep hrest ih =>
    have hle := hstep.stops_le
    have hle' := hrest.stops_le
    rcases hstep.returnOn c with hnone | ⟨hp, hq⟩
    · rw [returnsOn_cons_of_none hnone]
      exact ih (by omega)
    · omega

theorem Advance.acceptance (h : Advance p x q) :
    p.settled ≤ q.settled ∧
      ∀ c, x.acceptance? = some c → p.settled = c ∧ q.settled = c + 1 := by
  cases h with
  | beside hx =>
    refine ⟨Nat.le_refl _, fun c hc => ?_⟩
    cases x with
    | accepted => exact hx.elim
    | _ => exact nomatch hc
  | accept hthread hresume =>
    refine ⟨Nat.le_succ _, fun c hc => ?_⟩
    obtain rfl := (Option.some.inj hc).symm.trans hresume
    exact ⟨rfl, rfl⟩
  | forget => exact ⟨Nat.le_succ _, fun c hc => nomatch hc⟩
  | _ => exact ⟨Nat.le_refl _, fun c hc => nomatch hc⟩

/-- No two requests are accepted for the same stop. -/
theorem Passage.acceptances (h : Passage p log q) :
    (acceptances log).Pairwise (· < ·) ∧ ∀ c ∈ Evaluation.acceptances log, p.settled ≤ c := by
  induction h with
  | nil => exact ⟨.nil, fun c hc => absurd hc List.not_mem_nil⟩
  | @cons p x q log r hstep _ ih =>
    obtain ⟨hpairwise, hbound⟩ := ih
    obtain ⟨hle, haccept⟩ := hstep.acceptance
    unfold Evaluation.acceptances at hpairwise hbound ⊢
    cases hx : x.acceptance? with
    | none =>
      rw [List.filterMap_cons_none hx]
      exact ⟨hpairwise, fun c hc => Nat.le_trans hle (hbound c hc)⟩
    | some c =>
      obtain ⟨hp, hq⟩ := haccept c hx
      rw [List.filterMap_cons_some hx]
      refine ⟨List.pairwise_cons.mpr ⟨fun d hd => ?_, hpairwise⟩,
        List.forall_mem_cons.mpr ⟨Nat.le_of_eq hp, fun d hd => ?_⟩⟩
      · have hlt : c + 1 ≤ d := hq ▸ hbound d hd
        exact hlt
      · exact Nat.le_trans hle (hbound d hd)

/-! ## From an accepted request to the end of the wait -/

theorem returnOn_of_beside (h : x.IsBeside) (c : Channel) : x.returnOn? c = none := by
  cases x with
  | returned => exact h.elim
  | _ => rfl

/-- A thread that was told to go on does, once. -/
theorem Passage.of_resumed {report : DebugStop} (h : Passage (.waiting report c .resumed) log q) :
    (returnsOn c log = [] ∧ q = .waiting report c .resumed) ∨
      (returnsOn c log = [true] ∧ c < q.stops) := by
  induction log with
  | nil =>
    cases h
    exact .inl ⟨rfl, rfl⟩
  | cons x log ih =>
    cases h with
    | cons hstep hrest =>
      cases hstep with
      | beside hx =>
        rw [returnsOn_cons_of_none (returnOn_of_beside hx c)]
        exact ih hrest
      | goOn =>
        have hnone := hrest.returnsOn_eq_nil (.inl (Nat.lt_succ_self c))
        refine .inr ⟨?_, hrest.stops_le⟩
        have hreturn : (Happening.returned c true).returnOn? c = some true := if_pos rfl
        unfold returnsOn at hnone ⊢
        rw [List.filterMap_cons_some hreturn, hnone]

/-- Once a request is accepted and all of it gets through that the client is to be told, the wait
ends with the thread going on, if it has ended. -/
theorem Passage.of_accepted {report : DebugStop} {request : Request} {event : StopEvent}
    {unsent : List Message} (h : Passage (.waiting report c (.accepted request event unsent)) log q)
    (hthrough : through unsent <+: sessionPosts log) :
    (returnsOn c log = [] ∧ (q = .waiting report c (.accepted request event []) ∨
        q = .waiting report c .resumed)) ∨
      (returnsOn c log = [true] ∧ c < q.stops) := by
  induction log generalizing unsent with
  | nil =>
    cases h
    obtain rfl := List.map_eq_nil_iff.mp (List.prefix_nil.mp hthrough)
    exact .inl ⟨rfl, .inl rfl⟩
  | cons x log ih =>
    cases h with
    | cons hstep hrest =>
      cases hstep with
      | beside hx hpost =>
        rw [returnsOn_cons_of_none (returnOn_of_beside hx c)]
        refine ih hrest ?_
        rw [sessionPosts, List.filterMap_cons_none (hpost trivial)] at hthrough
        exact hthrough
      | confirm =>
        rw [returnsOn_cons_of_none rfl]
        exact ih hrest (List.cons_prefix_cons.mp hthrough).2
      | fail =>
        obtain ⟨heq, -⟩ := List.cons_prefix_cons.mp hthrough
        exact nomatch congrArg Prod.snd heq
      | resume =>
        rw [returnsOn_cons_of_none rfl]
        rcases hrest.of_resumed with ⟨hnone, hq⟩ | hend
        · exact .inl ⟨hnone, .inr hq⟩
        · exact .inr hend

/-! ## What has been before -/

/-- What must have happened before a phase. -/
def Standing (log : List Happening) : Phase → Prop
  | .waiting report c .reported => .enqueued (.stopped report c) ∈ log
  | .waiting report c (.recorded event) =>
    [.enqueued (.stopped report c), .recorded event].Sublist log
  | .waiting _ c (.accepted request event unsent) =>
    ∃ before after sent, log = before ++ .accepted request event :: after ∧
      Accepted c request event before ∧ confirmations request event.thread = sent ++ unsent ∧
      sessionPosts after = through sent
  | .waiting _ c .resumed => Released c log ∧ .resumed c ∈ log
  | _ => True

theorem Standing.beside (h : Standing log p) (hpost : p.IsConfirming → x.sessionPost? = none) :
    Standing (log ++ [x]) p := by
  cases p with
  | going => trivial
  | waiting report c stage =>
    cases stage with
    | reported => exact List.mem_append_left _ h
    | recorded event => exact h.trans (List.sublist_append_left _ _)
    | accepted request event unsent =>
      obtain ⟨before, after, sent, rfl, haccepted, hsent, hposts⟩ := h
      refine ⟨before, after ++ [x], sent, ?_, haccepted, hsent, ?_⟩
      · rw [List.append_assoc, List.cons_append]
      · have hnone : sessionPosts [x] = [] := List.filterMap_cons_none (hpost trivial)
        rw [sessionPosts_append, hposts, hnone, List.append_nil]
    | failed => trivial
    | resumed => exact ⟨h.1.append _, List.mem_append_left _ h.2⟩

theorem Standing.advance (h : Standing log p) (hstep : Advance p x q) :
    Standing (log ++ [x]) q := by
  cases hstep with
  | beside _ hpost => exact h.beside hpost
  | report => exact List.mem_append_right _ List.mem_cons_self
  | record =>
    exact (List.singleton_sublist.mpr h).append (List.Sublist.refl [_])
  | @accept report c request event hthread hresume hrequest =>
    exact ⟨log, [], [], rfl, ⟨⟨report, hthread, h⟩, hresume, hrequest⟩, rfl, rfl⟩
  | @confirm report c request event m unsent bytes =>
    obtain ⟨before, after, sent, rfl, haccepted, hsent, hposts⟩ := h
    refine ⟨before, after ++ [Happening.posted .session m (.ok ()) bytes], sent ++ [m], ?_, haccepted,
      ?_, ?_⟩
    · rw [List.append_assoc, List.cons_append]
    · rw [hsent, List.append_assoc, List.singleton_append]
    · rw [sessionPosts_append, hposts, through, through, List.map_append]
      rfl
  | resume =>
    obtain ⟨before, after, sent, rfl, haccepted, hsent, hposts⟩ := h
    exact ⟨Released.append ⟨_, _, before, after, rfl, haccepted, .of_sent hsent hposts⟩ _,
      List.mem_append_right _ List.mem_cons_self⟩
  | fail | goOn | forget | refuse => trivial

theorem Passage.standing (h : Passage (.going 0) log q) : Standing log q :=
  h.induction_last (P := fun q log => Standing log q) trivial fun _ _ _ _ => Standing.advance

/-! ## How a wait ends -/

/-- A wait ends with the thread going on if its stop was released, and only then. -/
theorem Passage.returned_iff {goesOn : Bool}
    (h : Passage (.going 0) (before ++ .returned c goesOn :: after) q) :
    goesOn = true ↔ Released c before := by
  obtain ⟨p, p', hbefore, hstep, -⟩ := h.around
  constructor
  · rintro rfl
    cases hstep with
    | beside hx => exact hx.elim
    | goOn => exact hbefore.standing.1
  · rintro ⟨request, event, front, middle, rfl, haccepted, hconfirmed⟩
    obtain ⟨m, m', -, haccept, hmiddle⟩ := hbefore.around
    have hstops : p.stops = c := by
      rcases hstep.returnOn c with hnone | ⟨hp, -⟩
      · rw [Happening.returnOn?, if_pos rfl] at hnone
        exact nomatch hnone
      · exact hp
    -- the request was accepted for this very stop, and the wait for it has not ended yet
    cases haccept with
    | beside hx => exact hx.elim
    | accept _ hresume =>
      obtain rfl := hresume.symm.trans haccepted.resume_eq
      rcases hmiddle.of_accepted hconfirmed with ⟨-, rfl | rfl⟩ | ⟨-, hlt⟩
      · cases hstep with
        | beside hx => exact hx.elim
      · cases hstep with
        | beside hx => exact hx.elim
        | goOn => rfl
      · exact absurd hstops (Nat.ne_of_gt hlt)

/-- A thread goes on only after the session told it to. -/
theorem Passage.resumed_of_returned
    (h : Passage (.going 0) (before ++ .returned c true :: after) q) : .resumed c ∈ before := by
  obtain ⟨p, p', hbefore, hstep, -⟩ := h.around
  cases hstep with
  | beside hx => exact hx.elim
  | goOn => exact hbefore.standing.2

/-- The session tells a thread to go on when its stop is released, and not before. -/
theorem Passage.released_of_resumed
    (h : Passage (.going 0) (before ++ .resumed c :: after) q) : Released c before := by
  obtain ⟨p, p', hbefore, hstep, -⟩ := h.around
  cases hstep with
  | beside hx => exact hx.elim
  | resume =>
    obtain ⟨front, middle, sent, rfl, haccepted, hsent, hposts⟩ := hbefore.standing
    exact ⟨_, _, front, middle, rfl, haccepted, .of_sent hsent hposts⟩

/-- When the client has been told that a thread goes on, the wait of the thread has ended with that,
or the session is about to tell the thread, or has just done so. -/
theorem Passage.returnsOn_of_confirmed {request : Request} {event : StopEvent}
    (h : Passage (.going 0) (before ++ .accepted request event :: after) q)
    (hconfirmed : Confirmed request event.thread after) :
    returnsOn event.resume (before ++ .accepted request event :: after) = [true] ∨
      (returnsOn event.resume (before ++ .accepted request event :: after) = [] ∧
        ∃ report, q = .waiting report event.resume (.accepted request event []) ∨
          q = .waiting report event.resume .resumed) := by
  obtain ⟨p, p', hbefore, hstep, hafter⟩ := h.around
  cases hstep with
  | beside hx => exact hx.elim
  | @accept report c _ _ _ hresume =>
    obtain rfl := hresume
    have hnone : returnsOn event.resume before = [] :=
      hbefore.returnsOn_eq_nil (.inr (Nat.le_refl _))
    rw [returnsOn_append, hnone, List.nil_append, returnsOn_cons_of_none rfl]
    rcases hafter.of_accepted hconfirmed with ⟨hafter, hq⟩ | ⟨hafter, -⟩
    · exact .inr ⟨hafter, report, hq⟩
    · exact .inl hafter

end Order

end DebugAdapter.Evaluation
