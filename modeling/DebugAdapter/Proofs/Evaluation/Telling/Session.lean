import DebugAdapter.Proofs.Evaluation.Telling.Situations

/-! # The session lets stories go on

Whatever the session does, the story of a thread goes on in one of the ways in which stories do. -/

namespace DebugAdapter.Evaluation

open Debuggee Protocol Session

variable {s t : System} {log more : List Happening} {thread : Int64}

/-- The task takes no stop off the table and tells the client nothing about the thread. -/
def Uneventful (s : System) (thread : Int64) : Task → Prop
  | .purgeEvents => False
  | .send m => tells? thread m = none
  | .release _ arguments => s.registries.events.get? arguments.threadId = none
  | _ => True

theorem Uneventful.events_eq {task : Task} (h : Uneventful s thread task) (rest : List Task) :
    (s.perform rest task).registries.events = s.registries.events := by
  cases task with
  | purgeEvents => exact h.elim
  | cancel | resume => rfl
  | start =>
    rcases perform_start s rest with ⟨hnext, -⟩ | ⟨-, -, hnext⟩ <;>
      exact congrArg (fun next => next.registries.events) hnext
  | release request arguments =>
    have hnone : s.registries.events.get? arguments.threadId = none := h
    rw [System.perform, ThreadTable.release, hnone]
    rfl
  | send | fail | findStop | findFrames | findScopes | findVariables | purgeFrames |
    purgeVariables | decide | farewell | close =>
    exact (untouched_perform s rest (by trivial)).events_eq

theorem Uneventful.story_eq {task : Task} (h : Uneventful s thread task) :
    story thread (s.performing task) = [] := by
  cases task with
  | send m => exact story_posted h
  | fail | farewell => exact story_posted rfl
  | release request arguments =>
    have hnone : s.registries.events.get? arguments.threadId = none := h
    rw [System.performing, hnone]
    rfl
  | resume =>
    rw [System.performing]
    cases s.session.held <;> rfl
  | _ => rfl

/-- The session has to tell that a thread goes on only when a request to go on was accepted. -/
theorem not_owing_perform {thread : Int64} {task : Task} {rest : List Task}
    (hrest : .send (continuation thread) ∉ rest)
    (hrelease : ∀ request arguments, task = .release request arguments →
      s.registries.events.get? arguments.threadId = none) :
    owing (s.perform rest task) thread = false := by
  refine owing_eq_false fun hmem => ?_
  rcases mem_perform s rest task hmem with
    hmem | hmem | hreply | ⟨request, arguments, event, hreleases, -⟩
  · exact hrest hmem
  · simp [farewellTasks] at hmem
  · exact hreply
  · cases (hrelease request arguments hreleases.task_eq).symm.trans hreleases.get?_eq

/-- What comes of a message that the session posts: it got through, or the session leaves. -/
theorem sent_cases (hstate : s.session.state = .dispatching) (rest : List Task)
    (outcome : Except Error Unit × Outbox) :
    (∃ e, outcome.1 = .error e ∧ (s.sent rest outcome).session.state = .terminating ∧
        (s.sent rest outcome).session.work = farewellTasks) ∨
      outcome.1 = .ok () ∧ (s.sent rest outcome).session.work = rest := by
  obtain ⟨e | _, o⟩ := outcome
  · obtain ⟨hnext, hwork, -⟩ :=
      endWith_of_dispatching (s := { s with outbox := o }) (.error e) hstate
    exact .inl ⟨e, rfl, hnext, hwork⟩
  · exact .inr ⟨rfl, rfl⟩

/-- A step of the session in which nothing happens to a thread. At most the session leaves, and the
client is not told any more that the thread goes on. -/
theorem GoesOn.of_quiet (hkept : System.KeptBySession s t)
    (hevents : t.registries.events = s.registries.events) (hstory : story thread more = [])
    (howing : owing t thread = owing s thread ∨ owing t thread = false ∧ Concluding t) :
    GoesOn s more t thread := by
  have hannouncing : announcing t thread = announcing s thread := announcing_congr hkept.pump_eq
  rcases howing with hsame | ⟨hnone, hconcluding⟩
  · exact .of_still hstory (situation_congr hevents hannouncing hsame)
  · refine .of_drops (.leaves hconcluding) hstory ?_
    rw [situation, situation, live, live, hevents, hannouncing, hnone]
    exact ⟨id, id, fun h => absurd h Bool.false_ne_true⟩

theorem Uneventful.goesOn {task : Task} {rest : List Task} (h : Uneventful s thread task)
    (howing : owing (s.perform rest task) thread = owing s thread ∨
      owing (s.perform rest task) thread = false ∧ Concluding (s.perform rest task)) :
    GoesOn s (s.performing task) (s.perform rest task) thread :=
  .of_quiet (.perform s rest task) (h.events_eq rest) h.story_eq howing

/-- The session has nothing to tell the client about the thread. -/
theorem Uneventful.goesOn_of_not_mem {task : Task} {rest : List Task} (h : Uneventful s thread task)
    (hwork : s.session.work = task :: rest) (hnone : .send (continuation thread) ∉ task :: rest) :
    GoesOn s (s.performing task) (s.perform rest task) thread := by
  refine h.goesOn (.inl ?_)
  have hrelease : ∀ request arguments, task = .release request arguments →
      s.registries.events.get? arguments.threadId = none := by
    rintro request arguments rfl
    exact h
  rw [not_owing_perform (List.not_mem_of_not_mem_cons hnone) hrelease,
    owing_eq_false (hwork ▸ hnone)]

theorem goesOn_heard (hwork : s.session.work = []) (hreceive : s.receive? = some t)
    (thread : Int64) : GoesOn s s.hearing t thread := by
  have hheard := System.heard hreceive
  have hafter : .send (continuation thread) ∉ t.session.work := by
    intro hmem
    have hattends := attends hreceive
    generalize s.hearing = more at hattends
    cases hattends with
    | @takesUp m _ _ _ hplan =>
      obtain ⟨tasks, flow, htasks, herrand, -⟩ := planMessage_eq s.session.started m
      rw [hplan, htasks] at hmem
      have htelling := herrand.of_telling ((List.mem_append.mp hmem).resolve_right (by simp))
      exact calm_planMessage s.session.started m _ (htasks ▸ List.mem_append_left _ htelling)
    | opens _ _ hnext =>
      rw [hnext, hwork] at hmem
      exact absurd hmem List.not_mem_nil
    | leaves _ _ hfarewell =>
      rw [hfarewell] at hmem
      simp [farewellTasks] at hmem
    | givesUp _ _ hclose =>
      rw [hclose] at hmem
      simp at hmem
  refine .of_quiet (.heard hheard) (untouched_heard hheard).events_eq (story_heard thread hheard)
    (.inl ?_)
  rw [owing_eq_false hafter, owing_eq_false (by rw [hwork]; exact List.not_mem_nil)]

/-- What becomes of the system when a request to go on is accepted. -/
structure Accepting (s t : System) (arguments : ContinueArguments) (rest : List Task) : Prop where
  live_eq : ∀ thread, live t thread = if thread = arguments.threadId then false else live s thread
  owing_eq : (∀ thread, .send (continuation thread) ∉ rest) →
    ∀ thread, owing t thread = decide (thread = arguments.threadId)

theorem accepting_perform (request : Request) {arguments : ContinueArguments} {event : StopEvent}
    (hget : s.registries.events.get? arguments.threadId = some event) (rest : List Task) :
    Accepting s (s.perform rest (.release request arguments)) arguments rest := by
  have hreleased := s.registries.events.get?_release arguments.threadId
  rw [System.perform]
  split
  · rename_i heq
    cases hget.symm.trans (congrArg Prod.fst heq)
  · rename_i event' events heq
    rw [heq] at hreleased
    refine ⟨fun thread => ?_, fun hrest thread => ?_⟩
    · refine (congrArg Option.isSome (hreleased thread)).trans ?_
      split <;> rfl
    · refine decide_eq_decide.mpr ?_
      have htold : .send (continuation thread) ∈ releasing request arguments.threadId ++ rest ↔
          thread = arguments.threadId := by
        rw [List.mem_append, or_iff_left (hrest thread)]
        simp +contextual [releasing, Task.respond, continuation, Event.ofBody]
      exact htold

/-- A request to go on is accepted. -/
theorem goesOn_accept {request : Request} {arguments : ContinueArguments} {event : StopEvent}
    {rest : List Task} (hget : s.registries.events.get? arguments.threadId = some event)
    (hsame : event.thread = arguments.threadId)
    (hrest : ∀ thread, .send (continuation thread) ∉ rest)
    (hwork : s.session.work = .release request arguments :: rest) (thread : Int64) :
    GoesOn s (s.performing (.release request arguments))
      (s.perform rest (.release request arguments)) thread := by
  obtain ⟨hlive, howing⟩ := accepting_perform request hget rest
  have hkept := System.KeptBySession.perform s rest (.release request arguments)
  have hhappens : s.performing (.release request arguments) = [.accepted request event] := by
    rw [System.performing, hget]
    rfl
  have hbefore : owing s thread = false := owing_eq_false (by rw [hwork]; simp [hrest thread])
  rw [hhappens]
  generalize s.perform rest (.release request arguments) = t at *
  have hannouncing : announcing t thread = announcing s thread := announcing_congr hkept.pump_eq
  have hafter : situation t thread = ⟨if thread = arguments.threadId then false else live s thread,
      announcing s thread, decide (thread = arguments.threadId)⟩ := by
    rw [situation, hlive, hannouncing, howing hrest]
  by_cases hthread : thread = arguments.threadId
  · have hstopped : situation s thread = ⟨true, announcing s thread, false⟩ := by
      rw [situation, live, hbefore, hthread, hget]
      rfl
    rw [if_pos hthread, decide_eq_true hthread] at hafter
    exact .of_goes hstopped (List.filterMap_cons_some (if_pos (hsame.trans hthread.symm))) hafter
      .accept
  · rw [if_neg hthread, decide_eq_false hthread, ← hbefore] at hafter
    exact .of_still
      (List.filterMap_cons_none (if_neg fun heq => hthread (heq.symm.trans hsame))) hafter

/-- The client is told that a thread goes on. -/
theorem goesOn_telling {other : Int64} {rest : List Task}
    (hstate : s.session.state = .dispatching)
    (hrest : ∀ thread, .send (continuation thread) ∉ rest)
    (hwork : s.session.work = .send (continuation other) :: rest) (thread : Int64) :
    GoesOn s (s.performing (.send (continuation other)))
      (s.perform rest (.send (continuation other))) thread := by
  have hkept := System.KeptBySession.perform s rest (.send (continuation other))
  have hevents := (untouched_perform s rest
    (show Task.IsInward (.send (continuation other)) from trivial)).events_eq
  have hcases := sent_cases hstate rest (s.outbox.post (continuation other))
  rw [← System.perform] at hcases
  rw [System.performing, System.posting]
  generalize s.perform rest (.send (continuation other)) = t at *
  rcases hcases with ⟨e, herror, hnext, hfarewell⟩ | ⟨hok, hnext⟩
  · rw [herror]
    refine .of_quiet hkept hevents (story_untold fun heq => ?_)
      (.inr ⟨owing_eq_false ?_, .leaving hnext⟩)
    · cases markOf_of_tells heq
    rw [hfarewell]
    simp [farewellTasks]
  · rw [hok]
    have hafter : owing t thread = false := owing_eq_false (hnext ▸ hrest thread)
    by_cases hother : other = thread
    · have hbefore : owing s thread = true := decide_eq_true (by rw [hwork, hother]; simp)
      have hannouncing : announcing t thread = announcing s thread := announcing_congr hkept.pump_eq
      refine .of_goes (congrArg (Situation.mk _ _) hbefore)
        (List.filterMap_cons_some (if_pos hother)) ?_ .tell
      rw [situation, live, live, hevents, hannouncing, hafter]
    · have hnone : tells? thread (continuation other) = none := if_neg hother
      refine .of_quiet hkept hevents (story_posted hnone) (.inl ?_)
      rw [hafter, owing_eq_false]
      rw [hwork, List.mem_cons, or_iff_left (hrest thread), Task.send.injEq, continuation_inj]
      exact Ne.symm hother

/-- A question about the table. -/
theorem goesOn_look (hreached : Reached log s) {task : Task} {rest : List Task}
    (hlook : task.IsLook) (hrest : ∀ thread, .send (continuation thread) ∉ rest)
    (hwork : s.session.work = task :: rest) (thread : Int64) :
    GoesOn s (s.performing task) (s.perform rest task) thread := by
  have hnone : .send (continuation thread) ∉ task :: rest := by
    rintro (_ | ⟨_, hmem⟩)
    · exact hlook
    · exact hrest thread hmem
  cases task with
  | release request arguments =>
    cases hget : s.registries.events.get? arguments.threadId with
    | none => exact Uneventful.goesOn_of_not_mem (by exact hget) hwork hnone
    | some event =>
      obtain ⟨-, phase, -, hat⟩ := hreached.keeping
      obtain ⟨-, -, -, -, -, hsame, -⟩ := hat.placed.of_listed hget
      exact goesOn_accept hget hsame.symm hrest hwork thread
  | findStop | findFrames | findScopes | findVariables =>
    exact Uneventful.goesOn_of_not_mem trivial hwork hnone
  | _ => exact hlook.elim

/-- A task that is the same for every thread. -/
theorem goesOn_passing {task : Task} {rest : List Task} (hstate : s.session.state = .dispatching)
    (hpassing : task.IsPassing) (hwork : s.session.work = task :: rest) (thread : Int64) :
    GoesOn s (s.performing task) (s.perform rest task) thread := by
  have hsame : (s.perform rest task).session.work = rest →
      owing (s.perform rest task) thread = owing s thread := by
    refine fun hnext => decide_eq_decide.mpr ?_
    rw [hnext, hwork, List.mem_cons, or_iff_right]
    rintro rfl
    exact nomatch hpassing
  cases task with
  | send m =>
    refine Uneventful.goesOn (tells_eq_none hpassing) ?_
    rcases sent_cases hstate rest (s.outbox.post m) with ⟨e, -, hnext, hfarewell⟩ | ⟨-, hnext⟩
    · refine .inr ⟨owing_eq_false ?_, .leaving hnext⟩
      rw [System.perform, hfarewell]
      simp [farewellTasks]
    · exact .inl (hsame hnext)
  | purgeFrames | purgeVariables => exact Uneventful.goesOn trivial (.inl (hsame rfl))
  | _ => exact hpassing.elim

/-- A task of an errand. -/
theorem goesOn_errand (hreached : Reached log s) {other : Option Int64} {task : Task}
    {tasks : List Task} {wasStarted : Bool} {flow : Flow} (hstate : s.session.state = .dispatching)
    (herrand : Errand other (task :: tasks))
    (hwork : s.session.work = task :: (tasks ++ [Task.decide wasStarted flow])) (thread : Int64) :
    GoesOn s (s.performing task) (s.perform (tasks ++ [Task.decide wasStarted flow]) task) thread := by
  cases herrand with
  | fail | start | resuming =>
    exact Uneventful.goesOn_of_not_mem trivial hwork (by simp)
  | cancel hm =>
    refine Uneventful.goesOn_of_not_mem trivial hwork fun hmem => ?_
    obtain rfl : continuation thread = _ := by simpa using hmem
    exact nomatch hm
  | telling => exact goesOn_telling hstate (by simp) hwork thread
  | look hlook => exact goesOn_look hreached hlook (by simp) hwork thread
  | passing hpassing => exact goesOn_passing hstate hpassing hwork thread

/-- A task of the farewell. -/
theorem goesOn_leaving {task : Task} {rest : List Task}
    (hstate : s.session.state = .terminating) (hsuffix : task :: rest <:+ farewellTasks)
    (thread : Int64) : GoesOn s (s.performing task) (s.perform rest task) thread := by
  have hmem : task ∈ farewellTasks := hsuffix.subset List.mem_cons_self
  have hrest : .send (continuation thread) ∉ rest := fun hsend =>
    absurd (hsuffix.subset (List.mem_cons_of_mem _ hsend)) (by simp [farewellTasks])
  have hrelease : ∀ request arguments, task = .release request arguments →
      s.registries.events.get? arguments.threadId = none := by
    rintro request arguments rfl
    simp [farewellTasks] at hmem
  have howing := not_owing_perform hrest hrelease
  have hconcluding : Concluding (s.perform rest task) := .left hstate hsuffix
  cases task with
  | purgeEvents =>
    exact .of_drops (.leaves hconcluding) rfl
      ⟨fun h => (by cases h), id, fun h => (by cases howing.symm.trans h)⟩
  | farewell | cancel | purgeFrames | purgeVariables | close =>
    exact Uneventful.goesOn trivial (.inr ⟨howing, hconcluding⟩)
  | _ => simp [farewellTasks] at hmem

theorem goesOn_session (hreached : Reached log s) (hstep : s.session? = some t) (thread : Int64) :
    GoesOn s s.sessionHappenings t thread := by
  have hstep := System.sessionStep hstep
  generalize s.sessionHappenings = more at hstep
  cases hstep with
  | hears hwork _ hreceive => exact goesOn_heard hwork hreceive thread
  | @performs task rest hwork =>
    cases hreached.settling.agenda with
    | unopened _ hclose =>
      obtain ⟨rfl, rfl⟩ : task = .close ∧ rest = [] := by simpa [hwork] using hclose
      exact Uneventful.goesOn_of_not_mem trivial hwork (by simp)
    | ready _ hready | ended _ hready => cases hwork.symm.trans hready
    | leaving hstate hsuffix => exact goesOn_leaving hstate (hwork ▸ hsuffix) thread
    | @busy other tasks wasStarted flow hstate herrand hbusy =>
      cases tasks with
      | cons first tasks =>
        obtain ⟨rfl, rfl⟩ := List.cons.inj (hwork.symm.trans hbusy)
        exact goesOn_errand hreached hstate herrand hwork thread
      | nil =>
        obtain ⟨rfl, rfl⟩ := List.cons.inj (hwork.symm.trans hbusy)
        exact Uneventful.goesOn_of_not_mem trivial hwork (by simp)

end DebugAdapter.Evaluation
