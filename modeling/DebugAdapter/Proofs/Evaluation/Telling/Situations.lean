import DebugAdapter.Proofs.Evaluation.Announcing
import DebugAdapter.Proofs.Evaluation.Telling.Stories

/-! # Situations of a thread

The system determines the situation of a thread. A step of the pump lets the story of the thread go
on in one of the ways in which stories do. -/

namespace DebugAdapter.Evaluation

open Debuggee Protocol Session

/-! ## Situations -/

/-- The client is told by the task that the thread stopped, unless the session is over. -/
def PumpTask.announces (thread : Int64) : PumpTask → Bool
  | .send m => tells? thread m == some .stopped
  | .announce report => report.thread == thread
  | _ => false

/-- The thread has a stop in the table. -/
def live (s : System) (thread : Int64) : Bool := (s.registries.events.get? thread).isSome

/-- The pump is about to tell the client that the thread stopped. -/
def announcing (s : System) (thread : Int64) : Bool := s.pump.head?.any (·.announces thread)

/-- The session has to tell the client that the thread goes on. -/
def owing (s : System) (thread : Int64) : Bool :=
  decide (Task.send (continuation thread) ∈ s.session.work)

def situation (s : System) (thread : Int64) : Situation :=
  ⟨live s thread, announcing s thread, owing s thread⟩

theorem announces_planItem (thread : Int64) (item : Item) :
    (planItem item).head?.any (·.announces thread) = false := by
  cases item <;> rfl

theorem tells_stopped (thread : Int64) (report : DebugStop) (c : Channel) :
    tells? thread (Item.stopped report c).message =
      if report.thread = thread then some .stopped else none := rfl

/-- The messages of the pump tell about a thread only that it stopped. -/
theorem tells_message (thread : Int64) (item : Item) :
    tells? thread item.message = none ∨ tells? thread item.message = some .stopped := by
  cases item with
  | stopped report c =>
    rw [tells_stopped]
    split
    · exact .inr rfl
    · exact .inl rfl
  | _ => exact .inl rfl

theorem announces_stopped (thread : Int64) (report : DebugStop) (c : Channel) :
    (PumpTask.send (Item.stopped report c).message).announces thread =
      (PumpTask.announce report).announces thread := by
  rw [PumpTask.announces, tells_stopped, PumpTask.announces]
  by_cases hsame : report.thread = thread
  · rw [if_pos hsame, beq_iff_eq.mpr hsame]
    rfl
  · rw [if_neg hsame, beq_eq_false_iff_ne.mpr hsame]
    rfl

theorem Preparing.announces {report : DebugStop} {c : Channel} {tasks : List PumpTask}
    (h : Preparing report c tasks) (thread : Int64) :
    tasks.head?.any (·.announces thread) = false := by
  cases h <;> rfl

section Step

variable {s t : System} {log more : List Happening} {thread : Int64}

theorem continuation_inj {thread other : Int64} :
    continuation thread = continuation other ↔ thread = other := by
  refine ⟨fun h => ?_, congrArg _⟩
  have hbody : (EventBody.continued { threadId := thread, allThreadsContinued := some false }).name =
      (EventBody.continued { threadId := other, allThreadsContinued := some false }).name ∧
        thread = other := by simpa [continuation, Event.ofBody] using h
  exact hbody.2

theorem owing_eq_false (h : .send (continuation thread) ∉ s.session.work) :
    owing s thread = false := decide_eq_false h

theorem announcing_congr (h : t.pump = s.pump) : announcing t thread = announcing s thread := by
  rw [announcing, announcing, h]

theorem situation_congr (hevents : t.registries.events = s.registries.events)
    (hannouncing : announcing t thread = announcing s thread)
    (howing : owing t thread = owing s thread) : situation t thread = situation s thread := by
  rw [situation, situation, hannouncing, howing, live, live, hevents]

/-- Why a stop may be given up, or something may not be told any more: the session ends, or the
context is done. -/
inductive Lapses (s t : System) : Prop where
  | leaves (h : Concluding t)
  | gives {task rest} (hcancelled : s.cancelled = true) (hpump : s.pump = task :: rest)
      (hnot : task ≠ .send endNotice)

/-- What happens in a step, and the situation after it, is how the story of the thread goes on. -/
def GoesOn (s : System) (more : List Happening) (t : System) (thread : Int64) : Prop :=
  (situation s thread).Follows (Lapses s t) (story thread more) (situation t thread)

/-- A step in which nothing happens to a thread. -/
theorem GoesOn.of_still (hstory : story thread more = [])
    (hsame : situation t thread = situation s thread) : GoesOn s more t thread := by
  rw [GoesOn, hstory, hsame]
  exact .still

theorem GoesOn.of_goes {x y : Situation} {mark : Mark} (hbefore : situation s thread = x)
    (hstory : story thread more = [mark]) (hafter : situation t thread = y) (h : x.Goes mark y) :
    GoesOn s more t thread := by
  rw [GoesOn, hbefore, hstory, hafter]
  exact .goes h

theorem GoesOn.of_drops (hlapses : Lapses s t) (hstory : story thread more = [])
    (h : (situation s thread).Drops (situation t thread)) : GoesOn s more t thread := by
  rw [GoesOn, hstory]
  exact .drops hlapses h

theorem story_posted {thread : Int64} {sender : Actor} {m : Message} {result : Except Error Unit}
    {bytes : Bytes} (h : tells? thread m = none) :
    story thread [.posted sender m result bytes] = [] := by
  cases result with
  | error =>
    rw [story, List.filterMap_cons, Happening.mark?, h]
    rfl
  | ok =>
    rw [story, List.filterMap_cons, Happening.mark?, h]
    rfl

/-- Only the announcement of a stop is missed when it gets lost. -/
theorem story_untold {thread : Int64} {sender : Actor} {m : Message} {e : Error} {bytes : Bytes}
    (h : tells? thread m ≠ some .stopped) :
    story thread [.posted sender m (.error e) bytes] = [] := by
  rw [story, List.filterMap_cons, Happening.mark?, if_neg h]
  rfl

theorem story_heard (thread : Int64) (h : System.Heard s more t) : story thread more = [] := by
  cases h with
  | message | ended => rfl
  | opened | unanswered =>
    rw [story, List.filterMap_cons_none rfl]
    exact story_posted (m := .response _) rfl

theorem story_of_isOfEngine (thread : Int64) (h : ∀ x ∈ more, x.IsOfEngine) :
    story thread more = [] := by
  refine List.filterMap_eq_nil_iff.mpr fun x hx => ?_
  cases x with
  | enqueued | reported | returned => rfl
  | _ => exact (h _ hx).elim

/-- Whoever has to tell the client that a thread goes on has to let it go on. -/
theorem Errand.of_telling {thread : Option Int64} {other : Int64} {tasks : List Task}
    (h : Errand thread tasks) (hmem : .send (continuation other) ∈ tasks) : .resume ∈ tasks := by
  induction h with
  | nil => exact absurd hmem List.not_mem_nil
  | fail | start | resuming => exact nomatch List.mem_singleton.mp hmem
  | look hlook =>
    obtain rfl := List.mem_singleton.mp hmem
    exact hlook.elim
  | cancel hm =>
    obtain rfl : continuation other = _ := by simpa using hmem
    exact nomatch hm
  | passing hpassing _ ih =>
    rcases List.mem_cons.mp hmem with rfl | hmem
    · exact nomatch hpassing
    · exact List.mem_cons_of_mem _ (ih hmem)
  | telling => exact List.mem_cons_of_mem _ List.mem_cons_self

theorem Agenda.of_telling {thread : Int64} (h : Agenda s)
    (hmem : .send (continuation thread) ∈ s.session.work) : .resume ∈ s.session.work := by
  cases h with
  | unopened _ hwork =>
    rcases hwork with hwork | hwork <;> simp [hwork] at hmem
  | ready _ hwork | ended _ hwork => simp [hwork] at hmem
  | busy _ herrand hwork =>
    rw [hwork] at hmem ⊢
    have htasks := (List.mem_append.mp hmem).resolve_right (by simp)
    exact List.mem_append_left _ (herrand.of_telling htasks)
  | leaving _ hwork => exact absurd (hwork.subset hmem) (by simp [farewellTasks])

/-! ## Steps of the pump -/

/-- A stop is put into the table when there is none. -/
theorem Reached.of_retain (h : Reached log s) {event : StopEvent} {rest : List PumpTask}
    (hpump : s.pump = .retain event :: rest) :
    s.registries.events.entries = [] ∧ ∀ thread, owing s thread = false := by
  obtain ⟨-, phase, -, hat⟩ := h.keeping
  obtain ⟨report, ids, c, rfl, -, -, hholds⟩ := hat.placed.of_retain hpump
  refine ⟨hholds.listed_eq, fun thread => owing_eq_false fun hmem => ?_⟩
  exact hat.busy _ (h.settling.agenda.of_telling hmem)

/-- The pump posts the last message about an item. -/
theorem goesOn_posts {item : Item} (hpump : s.pump = [.send item.message]) (thread : Int64) :
    GoesOn s [System.posting .pump item.message s.outbox (s.outbox.post item.message)]
      { s with outbox := (s.outbox.post item.message).2, pump := [] } thread := by
  have hbefore : announcing s thread = (tells? thread item.message == some .stopped) := by
    rw [announcing, hpump]
    rfl
  rcases tells_message thread item with hnone | hstopped
  · refine .of_still (story_posted hnone) (situation_congr rfl ?_ rfl)
    rw [hbefore, hnone]
    rfl
  · have hsituation : situation s thread = ⟨live s thread, true, owing s thread⟩ := by
      rw [situation, hbefore, hstopped]
      rfl
    rw [System.posting]
    cases (s.outbox.post item.message).1 with
    | ok => exact .of_goes hsituation (List.filterMap_cons_some hstopped) rfl .announce
    | error e =>
      exact .of_goes hsituation (List.filterMap_cons_some (if_pos hstopped)) rfl .lose

/-- The pump puts a stop into the table. -/
theorem goesOn_retains {report : DebugStop} {c : Channel} {ids : List Nat}
    (hpump : s.pump = [.retain ⟨report.thread, ids, c⟩, .announce report])
    (hempty : s.registries.events.entries = []) (howing : ∀ thread, owing s thread = false)
    (thread : Int64) :
    GoesOn s [.recorded ⟨report.thread, ids, c⟩]
      (s.pumpPerform [.announce report] (.retain ⟨report.thread, ids, c⟩)) thread := by
  have hbefore : situation s thread = ⟨false, false, false⟩ := by
    rw [situation, live, ThreadTable.get?, hempty, announcing, hpump, howing]
    rfl
  have hafter : situation (s.pumpPerform [.announce report] (.retain ⟨report.thread, ids, c⟩)) thread =
      ⟨(if thread = report.thread then some (⟨report.thread, ids, c⟩ : StopEvent)
        else s.registries.events.get? thread).isSome, report.thread == thread, owing s thread⟩ :=
    congrArg (fun entry : Option StopEvent =>
        (⟨entry.isSome, report.thread == thread, owing s thread⟩ : Situation))
      (s.registries.events.get?_retain report.thread thread _)
  by_cases hsame : report.thread = thread
  · rw [if_pos hsame.symm, beq_iff_eq.mpr hsame, howing] at hafter
    exact .of_goes hbefore (List.filterMap_cons_some (if_pos hsame)) hafter .record
  · rw [if_neg (Ne.symm hsame), beq_eq_false_iff_ne.mpr hsame, ThreadTable.get?, hempty, howing]
      at hafter
    exact .of_still (List.filterMap_cons_none (if_neg hsame)) (hafter.trans hbefore.symm)

/-- The pump clears up after the context is done. -/
theorem goesOn_releases {task : PumpTask} {tasks : List PumpTask} {registries : Registries}
    (hpump : s.pump = task :: tasks) (hcancelled : s.cancelled = true)
    (htasks : task :: tasks <:+ releaseTasks)
    (hevents : registries.events = s.registries.events ∨ registries.events = {}) (thread : Int64) :
    GoesOn s [] { s with registries, pump := tasks } thread := by
  have hafter : tasks.head?.any (·.announces thread) = false ∧ task ≠ .send endNotice := by
    rcases (by simpa [releaseTasks, List.suffix_cons_iff] using htasks :
        (task = .purgeEvents ∧ tasks = [.purgeFrames, .purgeVariables]) ∨
          (task = .purgeFrames ∧ tasks = [.purgeVariables]) ∨ task = .purgeVariables ∧ tasks = [])
      with ⟨rfl, rfl⟩ | ⟨rfl, rfl⟩ | ⟨rfl, rfl⟩ <;> exact ⟨rfl, PumpTask.noConfusion⟩
  refine .of_drops (.gives hcancelled hpump hafter.2) rfl
    ⟨fun hlive => ?_, fun hannouncing => ?_, id⟩
  · rcases hevents with hevents | hevents
    · exact (congrArg (fun table => (table.get? thread).isSome) hevents).symm.trans hlive
    · cases (congrArg (fun table => (table.get? thread).isSome) hevents).symm.trans hlive
  · cases hafter.1.symm.trans hannouncing

theorem Pumps.goesOn (h : Pumps s more t) (hreached : Reached log s) (thread : Int64) :
    GoesOn s more t thread := by
  cases h with
  | @takes item items queue hpump =>
    refine .of_still rfl (situation_congr rfl ?_ rfl)
    rw [announcing, announcing, hpump]
    exact announces_planItem thread item
  | posts item hpump => exact goesOn_posts hpump thread
  | ends hpump =>
    refine .of_still rfl (situation_congr rfl ?_ rfl)
    rw [announcing, announcing, hpump]
    rfl
  | @prepares report c next registries hbefore hafter hevents =>
    refine .of_still rfl (situation_congr hevents ?_ rfl)
    rw [announcing, announcing, hbefore.announces]
    rcases hafter with hafter | ⟨ids, rfl⟩
    · exact hafter.announces thread
    · rfl
  | retains report c hpump =>
    obtain ⟨hempty, howing⟩ := hreached.of_retain hpump
    exact goesOn_retains hpump hempty howing thread
  | announces report c hpump =>
    refine .of_still rfl (situation_congr rfl ?_ rfl)
    rw [announcing, announcing, hpump]
    exact announces_stopped thread report c
  | gives hpump hcancelled =>
    exact .of_drops (.gives hcancelled hpump PumpTask.noConfusion) rfl
      ⟨id, fun h => (by cases h), id⟩
  | releases hpump hcancelled htasks hevents =>
    exact goesOn_releases hpump hcancelled htasks hevents thread

end Step

end DebugAdapter.Evaluation
