import DebugAdapter.Proofs.Debuggee.StopModel
import DebugAdapter.Proofs.Debuggee.Tables
import DebugAdapter.Proofs.Evaluation.Runs

/-! # One operation after the other

A stop, a request about one, or a purge takes many steps of a thread. An exchange is all of them,
up to the answer, and a history of a system is one exchange after the other. -/

namespace DebugAdapter.Evaluation

open Debuggee Protocol Session

/-- A thread makes steps until something is reached. -/
inductive Until (actor : Actor) (reached : System → Prop) : System → System → Prop where
  | here {s} (h : reached s) : Until actor reached s s
  | step {s t u} (h : ¬ reached s) (hstep : s.step? actor = some t)
      (hrest : Until actor reached t u) : Until actor reached s u

theorem Until.unique {actor : Actor} {reached : System → Prop} {s t u : System}
    (h : Until actor reached s t) (h' : Until actor reached s u) : t = u := by
  induction h with
  | here h =>
    cases h' with
    | here => rfl
    | step hnot => exact absurd h hnot
  | step hnot hstep _ ih =>
    cases h' with
    | here h => exact absurd h hnot
    | step _ hstep' hrest =>
      obtain rfl := Option.some.inj (hstep.symm.trans hstep')
      exact ih hrest

/-- What a client is told by a task. -/
def Task.answer? : Task → Option Answer
  | .send (.response p) =>
    some (if p.success then .replied p.body else .refused (p.message.getD ""))
  | .fail _ text => some (.refused text)
  | _ => none

/-- The task hands over a message or a signal: no table is looked at or changed. -/
def Task.IsDelivery : Task → Prop
  | .send _ | .fail _ _ | .resume => True
  | _ => False

theorem Task.isDelivery_of_answer? {task : Task} {answer : Answer}
    (h : task.answer? = some answer) : task.IsDelivery := by
  cases task with
  | send | fail => trivial
  | _ => exact nomatch h

namespace System

/-- What the session is about to answer. -/
def reply? (s : System) : Option Answer := s.session.work.head?.bind Task.answer?

/-- What the pump is about to make known. -/
def notice? (s : System) : Option Answer :=
  match s.pump with
  | .announce report :: _ => some (.announced report.body)
  | _ => none

end System

/-- An operation, up to the point where its answer is known and nothing is left to do but to hand
it over. -/
inductive Exchange : System → Operation → Answer → System → Prop where
  | stop {s t report resume answer}
      (h : Until .pump (·.notice?.isSome) { s with pump := planItem (.stopped report resume) } t)
      (hanswer : t.notice? = some answer) (hrest : t.pump.tail = []) :
      Exchange s (.stop report resume) answer t
  | purge {s t}
      (h : Until .session (·.session.work = [])
        (s.withWork [.purgeEvents, .purgeFrames, .purgeVariables]) t) :
      Exchange s .purge .purged t
  | ask {s t seq q answer}
      (h : Until .session (·.reply?.isSome) (s.withWork (planRequest (q.request seq)).1) t)
      (hanswer : t.reply? = some answer) (hrest : ∀ task ∈ t.session.work, task.IsDelivery) :
      Exchange s (.ask seq q) answer t

/-- Operations one after the other, with their answers. -/
inductive Exchanges : System → List Operation → List Answer → System → Prop where
  | nil {s} : Exchanges s [] [] s
  | cons {s t u op ops answer answers} (h : Exchange s op answer t)
      (hrest : Exchanges t ops answers u) : Exchanges s (op :: ops) (answer :: answers) u

theorem Exchange.unique {s t u : System} {op : Operation} {answer answer' : Answer}
    (h : Exchange s op answer t) (h' : Exchange s op answer' u) : answer = answer' ∧ t = u := by
  cases h with
  | stop h hanswer _ =>
    cases h' with
    | stop h' hanswer' _ =>
      obtain rfl := h.unique h'
      exact ⟨Option.some.inj (hanswer.symm.trans hanswer'), rfl⟩
  | purge h =>
    cases h' with
    | purge h' => exact ⟨rfl, h.unique h'⟩
  | ask h hanswer _ =>
    cases h' with
    | ask h' hanswer' _ =>
      obtain rfl := h.unique h'
      exact ⟨Option.some.inj (hanswer.symm.trans hanswer'), rfl⟩

theorem Exchanges.unique {s t u : System} {ops : List Operation} {answers answers' : List Answer}
    (h : Exchanges s ops answers t) (h' : Exchanges s ops answers' u) :
    answers = answers' ∧ t = u := by
  induction h generalizing answers' with
  | nil =>
    cases h'
    exact ⟨rfl, rfl⟩
  | cons h _ ih =>
    cases h' with
    | cons h' hrest' =>
      obtain ⟨rfl, rfl⟩ := h.unique h'
      obtain ⟨rfl, rfl⟩ := ih hrest'
      exact ⟨rfl, rfl⟩

/-! ## Steps of an operation -/

section Steps

variable {s u : System}

theorem Until.perform {reached : System → Prop} {task : Task} {rest : List Task}
    (hwork : s.session.work = task :: rest) (hnot : ¬ reached s)
    (h : Until .session reached (s.perform rest task) u) : Until .session reached s u := by
  refine .step hnot ?_ h
  unfold System.step? System.session?
  rw [hwork]

theorem Until.pumpPerform {reached : System → Prop} {task : PumpTask} {rest : List PumpTask}
    (hpump : s.pump = task :: rest) (hnot : ¬ reached s)
    (h : Until .pump reached (s.pumpPerform rest task) u) : Until .pump reached s u := by
  refine .step hnot ?_ h
  unfold System.step? System.pump?
  rw [hpump]

end Steps

/-! ## The tables of a stop -/

/-- The frames behind the handles, with scopes numbered over all frames. -/
def frameTable (before : Nat) : List FrameInfo → List Frame
  | [] => []
  | info :: rest =>
    .ofInfo info (showScopes before info.scopes) :: frameTable (before + info.scopes.length) rest

/-- The frames that are listed for some handles. -/
def listedFrames (frames : Handles Frame) (ids : List Nat) : List StackFrame :=
  ids.filterMap fun (id : Nat) => (frames.get? id).map (·.listed id)

theorem map_scopes_frameTable (before : Nat) (frames : List FrameInfo) :
    (frameTable before frames).map Frame.scopes = scopesByFrame before frames := by
  induction frames generalizing before with
  | nil => rfl
  | cons info rest ih => rw [frameTable, List.map_cons, ih, scopesByFrame]; rfl

theorem filterMap_listed {frames : Handles Frame} {before : Nat} {earlier : List Frame}
    {later : List FrameInfo} (h : frames.entries.toList = earlier ++ frameTable before later) :
    listedFrames frames (List.range' (earlier.length + 1) later.length) =
      showFrames earlier.length later := by
  induction later generalizing before earlier with
  | nil => rfl
  | cons info rest ih =>
    rw [frameTable] at h
    have hfirst : frames.get? ((earlier.length + 1 : Nat) : Int) =
        some (.ofInfo info (showScopes before info.scopes)) := by
      rw [Handles.get?_natCast_succ, h, List.getElem?_append_right (Nat.le_refl _), Nat.sub_self]
      rfl
    have hrest := @ih (before + info.scopes.length)
      (earlier ++ [.ofInfo info (showScopes before info.scopes)])
      (by rw [h, List.append_assoc, List.singleton_append])
    rw [List.length_append, List.length_singleton] at hrest
    rw [listedFrames, List.length_cons, List.range'_succ, List.filterMap_cons, hfirst,
      Option.map_some]
    dsimp only
    rw [← listedFrames, hrest, showFrames]
    rfl

/-- The tables show what the model says. -/
structure Refines (g : Registries) (m : StopModel) : Prop where
  stopped : ∀ thread, (g.events.get? thread).isSome ↔ thread ∈ m.stopped
  thread_eq : ∀ thread event, g.events.get? thread = some event → event.thread = thread
  frames_eq : g.frames.entries.toList = frameTable 0 m.frames
  locals_eq : g.locals.entries.toList = variablesByScope m.frames
  listed : ∀ thread event, g.events.get? thread = some event →
    listedFrames g.frames event.frameIds = m.framesOf thread

theorem Refines.empty : Refines {} {} where
  stopped thread := by simp [ThreadTable.get?]
  thread_eq thread event h := nomatch h
  frames_eq := rfl
  locals_eq := rfl
  listed thread event h := nomatch h

end DebugAdapter.Evaluation
