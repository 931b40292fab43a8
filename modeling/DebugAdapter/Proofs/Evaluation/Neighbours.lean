import DebugAdapter.Proofs.Evaluation.Exchanges

/-! # Threads beside one that goes on

When one thread goes on, the others stay stopped. But frames and variables of all threads are behind
the same handles, and these are purged as a whole: what a client was shown of a thread that stays
stopped is gone until that thread stops again. -/

namespace DebugAdapter.Evaluation

open Debuggee Protocol Session

/-! ## What is shown of a thread -/

/-- What a client can ask about a thread from what it is told of it: the stack, the scopes of the
frames in it, and the variables of these scopes. -/
inductive About (s : System) (thread : Int64) : Inquiry → Prop where
  | stack {a} (hthread : a.threadId = thread) : About s thread (.stackTrace a)
  | scopes {a b body frame} (hthread : a.threadId = thread)
      (hlearns : Learns s (.stackTrace a) (.replied (some (.stackTrace body))))
      (hframe : frame ∈ body.stackFrames) (hid : b.frameId = frame.id) : About s thread (.scopes b)
  | members {b c body scope} (hscopes : About s thread (.scopes b))
      (hlearns : Learns s (.scopes b) (.replied (some (.scopes body))))
      (hscope : scope ∈ body.scopes) (href : c.variablesReference = scope.variablesReference) :
      About s thread (.members c)

/-- What a client is told about a thread is what it was told before. -/
def Unaffected (thread : Int64) (s u : System) : Prop :=
  ∀ q, About s thread q → ∀ answer, Learns s q answer → Learns u q answer

/-- A stack without frames. -/
def noFrames : Answer := .replied (some (.stackTrace { stackFrames := [], totalFrames := some 0 }))

/-- Of a thread a client learns that it is stopped, and nothing else. -/
structure Bare (thread : Int64) (s : System) : Prop where
  stack : ∀ a answer, a.threadId = thread → (Learns s (.stackTrace a) answer ↔ answer = noFrames)
  scopes : ∀ b answer, Learns s (.scopes b) answer ↔
    answer = .refused ("Invalid frame id " ++ seqText b.frameId)
  members : ∀ c answer, Learns s (.members c) answer ↔
    answer = .refused ("Invalid variables reference " ++ seqText c.variablesReference)

/-- The operation neither lets a thread go on nor has to do with a new stop. -/
def Spares (thread : Int64) : Operation → Prop
  | .ask _ (.proceed a) => a.threadId ≠ thread
  | .ask _ _ => True
  | _ => False

/-! ## Tables without frames -/

/-- A thread is stopped, and nothing is behind a handle. -/
structure Stackless (g : Registries) (thread : Int64) : Prop where
  stopped : (g.events.get? thread).isSome
  frames_eq : g.frames = {}
  locals_eq : g.locals = {}

section Stackless

variable {g : Registries} {s t u : System} {thread : Int64}

theorem page_nil {α : Type} (start count : Option Int64) : page start count ([] : List α) = [] := by
  unfold page
  cases count with
  | none => simp
  | some n => simp

/-- A thread that is stopped when another one goes on is left without frames. -/
theorem stackless_proceed {a : ContinueArguments} (hne : a.threadId ≠ thread)
    (hproceeds : (g.events.get? a.threadId).isSome) (hstopped : (g.events.get? thread).isSome) :
    Stackless (tablesAfter g (.proceed a)) thread := by
  obtain ⟨event, hevent⟩ := Option.isSome_iff_exists.mp hproceeds
  simp only [tablesAfter, hevent]
  refine ⟨?_, rfl, rfl⟩
  rw [ThreadTable.get?_release, if_neg (Ne.symm hne)]
  exact hstopped

theorem Stackless.after (h : Stackless g thread) {seq : Int64} {q : Inquiry}
    (hspares : Spares thread (.ask seq q)) : Stackless (tablesAfter g q) thread := by
  cases q with
  | stackTrace | scopes | members => exact h
  | proceed a =>
    by_cases hproceeds : (g.events.get? a.threadId).isSome
    · exact stackless_proceed hspares hproceeds h.stopped
    · have hnone : g.events.get? a.threadId = none := by simpa using hproceeds
      simp only [tablesAfter, hnone]
      exact h

theorem Stackless.exchanges {later : List Operation} {answers : List Answer}
    (hlater : Exchanges t later answers u) (hspares : ∀ op ∈ later, Spares thread op)
    (h : Stackless t.registries thread) : Stackless u.registries thread := by
  induction hlater with
  | nil => exact h
  | @cons s t u op ops _ _ hop _ ih =>
    have hfirst : Spares thread op := hspares op List.mem_cons_self
    have hnext : Stackless t.registries thread := by
      cases op with
      | stop | purge => exact hfirst.elim
      | ask seq q =>
        rw [hop.of_ask.2]
        exact h.after hfirst
    exact ih (fun op hmem => hspares op (List.mem_cons_of_mem _ hmem)) hnext

theorem Stackless.bare (h : Stackless s.registries thread) : Bare thread s where
  stack a answer hthread := by
    have hlisted : ∀ ids, listedFrames s.registries.frames ids = [] := by
      rw [h.frames_eq]
      exact listedFrames_purge {}
    obtain ⟨event, hevent⟩ := Option.isSome_iff_exists.mp h.stopped
    rw [learns_iff, replyFrom, hthread, hevent]
    simp only [hlisted, page_nil]
    rfl
  scopes b answer := by
    have hnone : s.registries.frames.get? b.frameId.toInt = none := by
      rw [h.frames_eq, Handles.get?_eq]
      simp
    rw [learns_iff, replyFrom, hnone]
  members c answer := by
    have hnone : s.registries.locals.get? c.variablesReference.toInt = none := by
      rw [h.locals_eq, Handles.get?_eq]
      simp
    rw [learns_iff, replyFrom, hnone]

end Stackless

/-! ## One thread goes on -/

section Neighbours

variable {s t u : System} {thread : Int64}

/-- A stack that is shown without frames has none on any page. -/
theorem learns_stack_of_noFrames (h : Learns s (.stackTrace { threadId := thread }) noFrames)
    (a : StackTraceArguments) (answer : Answer) (hthread : a.threadId = thread) :
    Learns s (.stackTrace a) answer ↔ answer = noFrames := by
  rw [learns_iff, replyFrom] at h
  rw [learns_iff, replyFrom, hthread]
  cases hget : s.registries.events.get? thread with
  | none => simp [hget, noFrames, StopModel.notStopped] at h
  | some event =>
    have hlisted : listedFrames s.registries.frames event.frameIds = [] := by
      simp only [hget, noFrames, page_all] at h
      injection h with h
      injection h with h
      injection h with h
      injection h with hframes _
      exact hframes.symm
    simp only [hlisted, page_nil]
    rfl

/-- A client that is shown no frames of a thread has nothing else to ask about it. -/
theorem About.of_noFrames {q : Inquiry} (hq : About s thread q)
    (h : Learns s (.stackTrace { threadId := thread }) noFrames) :
    ∃ a, q = .stackTrace a ∧ a.threadId = thread := by
  induction hq with
  | stack hthread => exact ⟨_, rfl, hthread⟩
  | @scopes a b body frame hthread hlearns hframe _ =>
    have hbody : body = { stackFrames := [], totalFrames := some 0 } := by
      simpa [noFrames] using (learns_stack_of_noFrames h a _ hthread).mp hlearns
    rw [hbody] at hframe
    exact absurd hframe List.not_mem_nil
  | members _ _ _ _ ih =>
    obtain ⟨a, heq, -⟩ := ih
    exact nomatch heq

theorem bare_of_proceed {a : ContinueArguments} {seq : Int64} {body : Option ResponseBody}
    {later : List Operation} {answers : List Answer} (hne : a.threadId ≠ thread)
    (hstopped : (s.registries.events.get? thread).isSome)
    (hproceed : Exchange s (.ask seq (.proceed a)) (.replied body) t)
    (hlater : Exchanges t later answers u) (hspares : ∀ op ∈ later, Spares thread op) :
    Bare thread u := by
  have hproceeds : (s.registries.events.get? a.threadId).isSome := by
    have hreply := hproceed.of_ask.1
    rw [replyFrom] at hreply
    cases hget : s.registries.events.get? a.threadId with
    | none => simp [hget, StopModel.notStopped] at hreply
    | some event => rfl
  have hstackless : Stackless t.registries thread := by
    rw [hproceed.of_ask.2]
    exact stackless_proceed hne hproceeds hstopped
  exact (hstackless.exchanges hlater hspares).bare

/-- When a thread goes on, a client is told of another one that it is stopped and nothing else, until
that one goes on or a stop is recorded. What it was told before stays true if and only if that was
all it was told. -/
theorem unaffected_iff_noFrames {a : ContinueArguments} {seq : Int64} {body : Option ResponseBody}
    {later : List Operation} {answers : List Answer} (hne : a.threadId ≠ thread)
    (hstopped : (s.registries.events.get? thread).isSome)
    (hproceed : Exchange s (.ask seq (.proceed a)) (.replied body) t)
    (hlater : Exchanges t later answers u) (hspares : ∀ op ∈ later, Spares thread op) :
    Bare thread u ∧
      (Unaffected thread s u ↔ Learns s (.stackTrace { threadId := thread }) noFrames) := by
  have hbare := bare_of_proceed hne hstopped hproceed hlater hspares
  refine ⟨hbare, ?_, ?_⟩
  · intro hunaffected
    have hstack := hunaffected _ (.stack rfl) _
      (learns_iff.mpr rfl : Learns s (.stackTrace { threadId := thread }) _)
    rw [learns_iff]
    exact ((hbare.stack _ _ rfl).mp hstack).symm
  · intro hempty q hq answer hlearns
    obtain ⟨b, rfl, hthread⟩ := hq.of_noFrames hempty
    have hanswer := (learns_stack_of_noFrames hempty b answer hthread).mp hlearns
    exact (hbare.stack b answer hthread).mpr hanswer

/-- A thread stops, and then another one. -/
def neighbours : List Operation := [.stop { breakpoint with thread := 3 } 0, .stop breakpoint 1]

/-- What both threads look like then. -/
def neighboursModel : StopModel := { stopped := {7, 3}, current := some breakpoint }

theorem exchanges_neighbours :
    ∃ s answers, Exchanges untouched neighbours answers s ∧ Refines s.registries neighboursModel := by
  obtain ⟨s, hops, hrefines⟩ := exchanges_run (s := untouched) Refines.empty neighbours
  exact ⟨s, _, hops, hrefines⟩

theorem unaffected_iff_noFrames_neighbours :
    ∃ s t u body stops looks, Exchanges untouched neighbours stops s ∧
      (3 : Int64) ≠ 7 ∧ (s.registries.events.get? 7).isSome ∧
      Exchange s (.ask 4 (.proceed { threadId := 3 })) (.replied body) t ∧
      Exchanges t [.ask 5 (.scopes { frameId := 1 })] looks u ∧
      Bare 7 u ∧ (Unaffected 7 s u ↔ Learns s (.stackTrace { threadId := 7 }) noFrames) := by
  obtain ⟨s, stops, hstops, hrefines⟩ := exchanges_neighbours
  have hstopped : (s.registries.events.get? 7).isSome := (hrefines.stopped 7).mpr (by decide)
  obtain ⟨t, hproceed, ht⟩ := exchange_step hrefines (.ask 4 (.proceed { threadId := 3 }))
  obtain ⟨u, hlook, -⟩ := exchanges_run ht [.ask 5 (.scopes { frameId := 1 })]
  have hspares : ∀ op ∈ [Operation.ask 5 (.scopes { frameId := 1 })], Spares 7 op := by
    intro op hmem
    obtain rfl := List.mem_singleton.mp hmem
    trivial
  have hne : (3 : Int64) ≠ 7 := by decide
  obtain ⟨hbare, hiff⟩ :=
    unaffected_iff_noFrames (a := { threadId := 3 }) hne hstopped hproceed hlook hspares
  exact ⟨s, t, u, _, stops, _, hstops, hne, hstopped, hproceed, hlook, hbare, hiff⟩

/-- The client is shown both frames of the latest stop. When the other thread has gone on, it is shown
none of them. -/
theorem not_unaffected_neighbours :
    ∃ s t stops, Exchanges untouched neighbours stops s ∧
      Exchange s (.ask 4 (.proceed { threadId := 3 }))
        (.replied (some (.resumed { allThreadsContinued := some false }))) t ∧
      Learns s (.stackTrace { threadId := 7 })
        (.replied (some (.stackTrace
          { stackFrames := showFrames 0 breakpoint.frames, totalFrames := some 2 }))) ∧
      Learns t (.stackTrace { threadId := 7 }) noFrames ∧ ¬ Unaffected 7 s t := by
  obtain ⟨s, stops, hstops, hrefines⟩ := exchanges_neighbours
  have hstopped : (s.registries.events.get? 7).isSome := (hrefines.stopped 7).mpr (by decide)
  obtain ⟨t, hproceed, -⟩ := exchange_step hrefines (.ask 4 (.proceed { threadId := 3 }))
  have hshown : Learns s (.stackTrace { threadId := 7 })
      (.replied (some (.stackTrace
        { stackFrames := showFrames 0 breakpoint.frames, totalFrames := some 2 }))) := by
    rw [learns_iff, hrefines.replyFrom_eq]
    decide
  have hbare : Bare 7 t := bare_of_proceed (by decide) hstopped hproceed .nil
    (by simp)
  refine ⟨s, t, stops, hstops, hproceed, hshown, (hbare.stack _ _ rfl).mpr rfl, ?_⟩
  intro hunaffected
  have hstill := hunaffected _ (.stack rfl) _ hshown
  have hnone := (hbare.stack _ _ rfl).mp hstill
  exact absurd hnone (by decide)

end Neighbours

end DebugAdapter.Evaluation
