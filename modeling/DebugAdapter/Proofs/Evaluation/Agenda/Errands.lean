import DebugAdapter.Proofs.Evaluation.Handshake
import DebugAdapter.Proofs.Evaluation.Transitions
import DebugAdapter.Proofs.Session.Lifecycle

/-! # Errands

The work of a session has few shapes. The tasks for one message are an errand, and most of them leave
the course of the session alone. -/

namespace DebugAdapter.Evaluation

open Debuggee Protocol Session

/-! ## What is told about threads -/

/-- What becomes of the stop of a thread, and what the client is told about the thread. -/
inductive Mark where
  | recorded
  | accepted
  /-- The client is told that the thread stopped. -/
  | stopped
  /-- The client was to be told that the thread stopped, and the message did not get through. -/
  | lost
  /-- The client is told that the thread goes on. -/
  | continued
  deriving DecidableEq, Repr

/-- What a message tells about a thread. -/
def markOf? : Message → Option (Int64 × Mark)
  | .event e => match e.body with
    | some (.stopped body) => body.threadId.map fun thread => (thread, .stopped)
    | some (.continued body) => some (body.threadId, .continued)
    | _ => none
  | _ => none

/-! ## Errands -/

namespace Task

/-- The task finds out what to answer. -/
def IsLook : Task → Prop
  | .findStop _ _ | .findFrames _ _ _ _ | .findScopes _ _ | .findVariables _ _ => True
  | .release request _ => request.command = "continue"
  | _ => False

/-- The task drops handles, or posts a message that tells nothing about a thread. -/
def IsPassing : Task → Prop
  | .send m => markOf? m = none
  | .purgeFrames | .purgeVariables => True
  | _ => False

/-- The task concerns neither the engine nor its stops. -/
def IsInward : Task → Prop
  | .start | .cancel | .release _ _ | .purgeEvents | .resume => False
  | _ => True

end Task

/-- What is left to do for a message before the verdict on it. If a thread goes on in the end, the
client is told so just before that. -/
inductive Errand : Option Int64 → List Task → Prop where
  | nil : Errand none []
  | fail {request text} : Errand none [.fail request text]
  | start : Errand none [.start]
  | look {task} (h : Task.IsLook task) : Errand none [task]
  | cancel {m} (h : markOf? m = none) : Errand none [.cancel, .send m]
  | passing {thread task rest} (h : Task.IsPassing task) (hrest : Errand thread rest) :
      Errand thread (task :: rest)
  | telling {thread} : Errand (some thread) [.send (continuation thread), .resume]
  | resuming {thread} : Errand (some thread) [.resume]

namespace Errand

theorem respond (request : Request) (body : Option ResponseBody) :
    Errand none [.respond request body] :=
  .passing rfl .nil

theorem planRequest (r : Request) : Errand none (planRequest r).1 := by
  unfold Evaluation.planRequest
  dsimp only
  split
  case h_1 => exact .passing rfl (.respond r none)
  case h_2 => exact .passing rfl .start
  case h_3 => exact .respond r _
  case h_4 => exact .cancel rfl
  case h_5 => exact .respond r none
  case h_6 | h_7 | h_8 => exact .look trivial
  case h_9 hcommand _ => exact .look hcommand
  all_goals exact .fail

end Errand

/-- The evaluation is started at most at the end of the plan for a certain request. -/
theorem start_planRequest {r : Request} (h : .start ∈ (planRequest r).1) :
    r.command = "configurationDone" ∧ (planRequest r).2 = .proceed := by
  revert h
  unfold planRequest Task.respond
  dsimp only
  split <;> simp_all

/-- The plan for a request that asks for the end of the session makes it end. -/
theorem ends_planRequest {r : Request} (h : r.command = "terminate" ∨ r.command = "disconnect") :
    (planRequest r).2 = .stop ∨ .start ∉ (planRequest r).1 ∧ .cancel ∈ (planRequest r).1 := by
  obtain ⟨seq, command, arguments⟩ := r
  dsimp only at h
  rcases h with rfl | rfl
  · exact .inr ⟨by simp [planRequest, Task.respond], by simp [planRequest]⟩
  · exact .inl rfl

/-- A plan is an errand, with the verdict at its end. -/
theorem planMessage_eq (started : Bool) (m : Message) :
    ∃ tasks flow, planMessage started m = tasks ++ [Task.decide started flow] ∧ Errand none tasks ∧
      (.start ∈ tasks → flow = .proceed ∧
        ∃ r, m = .request r ∧ r.command = "configurationDone") := by
  cases m with
  | request r =>
    refine ⟨(planRequest r).1, (planRequest r).2, rfl, .planRequest r, fun h => ?_⟩
    obtain ⟨hcommand, hflow⟩ := start_planRequest h
    exact ⟨hflow, r, rfl, hcommand⟩
  | response | event =>
    exact ⟨[], .proceed, rfl, .nil, fun h => absurd h List.not_mem_nil⟩

section Step

variable {s t : System}

/-! ## What a task leaves alone -/

/-- A step of the session in which neither the engine nor the context nor a stop is touched. -/
structure Untouched (s t : System) : Prop where
  engine_eq : t.engine = s.engine
  cancelled_eq : t.cancelled = s.cancelled
  events_eq : t.registries.events = s.registries.events
  signals_eq : t.signals = s.signals
  started_eq : t.session.started = s.session.started

theorem Untouched.sent (s : System) (work : List Task) (outcome : Except Error Unit × Outbox) :
    Untouched s (s.sent work outcome) := by
  obtain ⟨_ | _, _⟩ := outcome <;> exact ⟨rfl, rfl, rfl, rfl, rfl⟩

theorem untouched_perform (s : System) (rest : List Task) {task : Task} (h : task.IsInward) :
    Untouched s (s.perform rest task) := by
  cases task with
  | send | fail => exact .sent s rest _
  | start | cancel | release | purgeEvents | resume => exact h.elim
  | findScopes | findVariables | purgeFrames | purgeVariables => exact ⟨rfl, rfl, rfl, rfl, rfl⟩
  | findStop | findFrames | decide =>
    unfold System.perform
    dsimp only
    split <;> exact ⟨rfl, rfl, rfl, rfl, rfl⟩
  | farewell =>
    obtain ⟨problems, hfarewell⟩ := s.farewell_eq rest
    rw [hfarewell]
    exact ⟨rfl, rfl, rfl, rfl, rfl⟩
  | close =>
    obtain ⟨decoder, problems, hclose⟩ := s.close_eq
    rw [System.perform, hclose]
    exact ⟨rfl, rfl, rfl, rfl, rfl⟩

theorem untouched_heard {more : List Happening} (h : System.Heard s more t) : Untouched s t := by
  cases h <;> exact ⟨rfl, rfl, rfl, rfl, rfl⟩

/-- The evaluation is started when it was not, and not if the context is done. -/
theorem perform_start (s : System) (rest : List Task) :
    s.perform rest .start = s.withWork rest ∧
        (s.session.started = true ∨ s.cancelled = true) ∨
      s.session.started = false ∧ s.cancelled = false ∧
        s.perform rest .start =
          { s with
            engine := .running s.script
            session := { s.session with started := true, work := rest } } := by
  rw [System.perform]
  dsimp only
  by_cases h : s.session.started = true ∨ s.cancelled = true
  · rw [if_pos (by simpa [System.withWork] using h)]
    exact .inl ⟨rfl, h⟩
  · rw [if_neg (by simpa [System.withWork] using h)]
    obtain ⟨hstarted, hcancelled⟩ := not_or.mp h
    exact .inr ⟨Bool.eq_false_iff.mpr hstarted, Bool.eq_false_iff.mpr hcancelled, rfl⟩

theorem farewell_of_endWith (s : System) (result : Except Error Unit) {task : Task}
    (h : task ∈ (s.endWith result).session.work) : task ∈ farewellTasks := by
  rcases s.endWith_work result with hwork | hwork <;> rw [hwork] at h
  · exact h
  · rw [List.mem_singleton.mp h]
    decide

/-- What is left to do after a message is posted, or the farewell. -/
theorem mem_sent {rest : List Task} {outcome : Except Error Unit × Outbox} {task : Task}
    (h : task ∈ (s.sent rest outcome).session.work) : task ∈ rest ∨ task ∈ farewellTasks := by
  rcases outcome with ⟨e | _, o⟩
  · exact .inr (farewell_of_endWith _ _ h)
  · exact .inl h

/-- The task answers a request, or looks for what to answer. -/
def Task.IsReply : Task → Prop
  | .send (.response _) | .fail _ _ | .findFrames _ _ _ _ => True
  | _ => False

/-- What is to be done when a request to go on was accepted. -/
def releasing (request : Request) (thread : Int64) : List Task :=
  [.purgeFrames, .purgeVariables,
    .respond request (some (.resumed { allThreadsContinued := some false })),
    .send (continuation thread), .resume]

/-- The stop of a thread is taken out of the table, for the thread to go on. -/
structure Releases (s : System) (task : Task) (next : System) (request : Request)
    (arguments : ContinueArguments) (event : StopEvent) : Prop where
  task_eq : task = .release request arguments
  get?_eq : s.registries.events.get? arguments.threadId = some event
  held_eq : next.session.held = some event

/-- Where the tasks come from that are left after one. -/
theorem mem_perform (s : System) (rest : List Task) (task : Task) {other : Task}
    (h : other ∈ (s.perform rest task).session.work) :
    other ∈ rest ∨ other ∈ farewellTasks ∨ other.IsReply ∨ ∃ request arguments event,
      Releases s task (s.perform rest task) request arguments event ∧
        other ∈ releasing request arguments.threadId := by
  have hcons : ∀ {first : Task}, first.IsReply → other ∈ first :: rest →
      other ∈ rest ∨ other.IsReply := by
    intro first hfirst hmem
    rcases List.mem_cons.mp hmem with rfl | hmem
    · exact .inr hfirst
    · exact .inl hmem
  cases task with
  | send | fail => exact (mem_sent h).imp_right .inl
  | start =>
    rcases perform_start s rest with ⟨hnext, -⟩ | ⟨-, -, hnext⟩ <;> rw [hnext] at h <;>
      exact .inl h
  | findStop | findFrames | findScopes | findVariables =>
    rw [System.perform.eq_def] at h
    dsimp only at h
    split at h <;> exact (hcons (by trivial) h).imp_right (.inr ∘ .inl)
  | release request arguments =>
    rw [System.perform, ThreadTable.release] at h ⊢
    cases hget : s.registries.events.get? arguments.threadId with
    | none =>
      rw [hget] at h
      exact (hcons (by trivial) h).imp_right (.inr ∘ .inl)
    | some event =>
      rw [hget] at h
      rcases List.mem_append.mp (show other ∈ releasing request arguments.threadId ++ rest from h)
        with h | h
      · exact .inr (.inr (.inr ⟨request, arguments, event, ⟨rfl, hget, rfl⟩, h⟩))
      · exact .inl h
  | cancel | purgeEvents | purgeFrames | purgeVariables | resume => exact .inl h
  | decide =>
    rw [System.perform] at h
    dsimp only at h
    split at h
    · exact .inr (.inl (farewell_of_endWith _ _ h))
    · exact .inl h
  | farewell =>
    obtain ⟨problems, hfarewell⟩ := s.farewell_eq rest
    rw [hfarewell] at h
    exact .inl h
  | close =>
    obtain ⟨decoder, problems, hclosed⟩ := s.close_eq
    rw [System.perform, hclosed] at h
    exact absurd h List.not_mem_nil

end Step

end DebugAdapter.Evaluation
