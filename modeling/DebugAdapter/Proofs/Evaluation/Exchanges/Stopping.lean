import DebugAdapter.Proofs.Evaluation.Exchanges.Inspection

/-! # Recording a stop

The pump purges, clears and fills the tables one by one for a stop. Afterwards they say what the
model of stops says after the same stop. -/

namespace DebugAdapter.Evaluation

open Debuggee Protocol Session

/-- A system with other tables and other tasks of the pump. -/
def System.pumping (s : System) (g : Registries) (pump : List PumpTask) : System :=
  { s with registries := g, pump }

section Stopping

variable {s u : System} {g : Registries}

/-- The pump goes on until it makes a stop known. -/
theorem Until.pumping {task : PumpTask} {rest rest' : List PumpTask} {g' : Registries}
    (hnot : ∀ report, task ≠ .announce report)
    (hstep : (s.pumping g (task :: rest)).pumpPerform rest task = s.pumping g' rest')
    (h : Until .pump (·.notice?.isSome) (s.pumping g' rest') u) :
    Until .pump (·.notice?.isSome) (s.pumping g (task :: rest)) u := by
  refine .pumpPerform rfl ?_ (hstep.symm ▸ h)
  rw [System.notice?, System.pumping]
  split
  · rename_i heq
    exact absurd (List.cons.inj heq).1 (hnot _)
  · exact Bool.false_ne_true

theorem pumping_findStop (s : System) (g : Registries) (thread : Int64) (rest : List PumpTask) :
    (s.pumping g (.findStop thread :: rest)).pumpPerform rest (.findStop thread) =
      s.pumping g (match g.events.get? thread with
        | some event => .retain { event with frameIds := [] } :: rest
        | none => rest) := rfl

theorem pumping_retain (s : System) (g : Registries) (event : StopEvent) (rest : List PumpTask) :
    (s.pumping g (.retain event :: rest)).pumpPerform rest (.retain event) =
      s.pumping { g with events := (g.events.retain event.thread event).2 } rest := rfl

def withoutFrames (event : StopEvent) : StopEvent := { event with frameIds := [] }

/-- The tables after the frames were taken away from the stop of a thread, if it has one. -/
def dropFrames (g : Registries) (thread : Int64) : Registries :=
  match g.events.get? thread with
  | some event => { g with events := (g.events.retain event.thread (withoutFrames event)).2 }
  | none => g

theorem get?_dropFrames {thread : Int64}
    (hkeyed : ∀ event, g.events.get? thread = some event → event.thread = thread) (other : Int64) :
    (dropFrames g thread).events.get? other =
      if other = thread then (g.events.get? other).map withoutFrames else g.events.get? other := by
  rw [dropFrames]
  cases hget : g.events.get? thread with
  | none =>
    dsimp only
    split
    · rename_i heq
      rw [heq, hget]
      rfl
    · rfl
  | some event =>
    obtain rfl := hkeyed event hget
    refine (g.events.get?_retain event.thread other (withoutFrames event)).trans ?_
    split
    · rename_i heq
      rw [heq, hget]
      rfl
    · rfl

/-- The stops of the other threads keep their frames. -/
theorem get?_foldl_dropFrames (todo : List Int64)
    (hkeyed : ∀ thread event, g.events.get? thread = some event → event.thread = thread)
    (other : Int64) : (todo.foldl dropFrames g).events.get? other =
      if other ∈ todo then (g.events.get? other).map withoutFrames else g.events.get? other := by
  induction todo generalizing g with
  | nil => exact (if_neg List.not_mem_nil).symm
  | cons thread todo ih =>
    have hdrop := get?_dropFrames (hkeyed thread)
    have hkeyed' : ∀ other event, (dropFrames g thread).events.get? other = some event →
        event.thread = other := by
      intro other event hget
      rw [hdrop] at hget
      split at hget
      · obtain ⟨before, hbefore, rfl⟩ := Option.map_eq_some_iff.mp hget
        exact hkeyed other before hbefore
      · exact hkeyed other event hget
    rw [List.foldl_cons, ih hkeyed', hdrop]
    by_cases hsame : other = thread
    · have htwice : withoutFrames ∘ withoutFrames = withoutFrames := rfl
      rw [if_pos hsame, Option.map_map, htwice, ite_self, if_pos (hsame ▸ List.mem_cons_self)]
    · simp only [List.mem_cons, hsame, false_or, if_false]

theorem foldl_dropFrames_kept (todo : List Int64) (g : Registries) :
    (todo.foldl dropFrames g).frames = g.frames ∧ (todo.foldl dropFrames g).locals = g.locals := by
  induction todo generalizing g with
  | nil => exact ⟨rfl, rfl⟩
  | cons thread todo ih =>
    have hkept : (dropFrames g thread).frames = g.frames ∧
        (dropFrames g thread).locals = g.locals := by
      rw [dropFrames]
      split <;> exact ⟨rfl, rfl⟩
    exact ⟨(ih _).1.trans hkept.1, (ih _).2.trans hkept.2⟩

/-- The frames of the stops before are out of date: they are taken out of the table one by one. -/
theorem until_cleared (todo : List Int64) (g : Registries) (rest : List PumpTask)
    (h : Until .pump (·.notice?.isSome) (s.pumping (todo.foldl dropFrames g) rest) u) :
    Until .pump (·.notice?.isSome) (s.pumping g (todo.map .findStop ++ rest)) u := by
  induction todo generalizing g with
  | nil => exact h
  | cons thread todo ih =>
    have hrest := ih (dropFrames g thread) h
    rw [dropFrames] at hrest
    refine .pumping (fun _ => PumpTask.noConfusion) (pumping_findStop s g thread _) ?_
    cases hget : g.events.get? thread with
    | none =>
      rw [hget] at hrest
      exact hrest
    | some event =>
      rw [hget] at hrest
      exact .pumping (fun _ => PumpTask.noConfusion)
        (pumping_retain s g (withoutFrames event) _) hrest

/-- Values under the next handles. -/
def addAll {α : Type} (h : Handles α) (values : List α) : Handles α :=
  ⟨(h.entries.toList ++ values).toArray⟩

theorem addAll_nil {α : Type} (h : Handles α) : addAll h [] = h := by
  rw [addAll, List.append_nil, Array.toArray_toList]

theorem addAll_add {α : Type} (h : Handles α) (a : α) (values : List α) :
    addAll (h.add a).2 values = addAll h (a :: values) := by
  rw [addAll, Handles.add, Array.toList_push, List.append_assoc]
  rfl

theorem size_add {α : Type} (h : Handles α) (a : α) :
    (h.add a).2.entries.size = h.entries.size + 1 := Array.size_push a

theorem addAll_addAll {α : Type} (h : Handles α) (first second : List α) :
    addAll (addAll h first) second = addAll h (first ++ second) := by
  rw [addAll, addAll, addAll, List.append_assoc]

theorem size_addAll {α : Type} (h : Handles α) (values : List α) :
    (addAll h values).entries.size = h.entries.size + values.length := by
  rw [addAll, List.size_toArray, List.length_append, Array.length_toList]

theorem variablesByScope_cons (frame : FrameInfo) (frames : List FrameInfo) :
    variablesByScope (frame :: frames) =
      frame.scopes.map ScopeInfo.listed ++ variablesByScope frames := by
  rw [variablesByScope, List.flatMap_cons, List.map_append]
  rfl

/-- The scopes of a frame are put behind handles one by one. -/
theorem until_scopes {report : DebugStop} {resume : Channel} {ids : List Nat} {frame : FrameInfo}
    {frames : List FrameInfo} {rest : List PumpTask} (done : List Scope)
    (earlier todo : List ScopeInfo) (g : Registries) (hscopes : frame.scopes = earlier ++ todo)
    (hdone : done.length = earlier.length)
    (h : Until .pump (·.notice?.isSome)
      (s.pumping { g with locals := addAll g.locals (todo.map ScopeInfo.listed) }
        (.record report resume ids (done ++ showScopes g.locals.entries.size todo)
          (frame :: frames) :: rest)) u) :
    Until .pump (·.notice?.isSome)
      (s.pumping g (.record report resume ids done (frame :: frames) :: rest)) u := by
  induction todo generalizing done earlier g with
  | nil =>
    rw [List.map_nil, addAll_nil, showScopes, List.append_nil] at h
    exact h
  | cons scope todo ih =>
    have hnext : frame.scopes[done.length]? = some scope := by
      rw [hscopes, hdone, List.getElem?_append_right (Nat.le_refl _), Nat.sub_self]
      rfl
    have hstep : (s.pumping g (.record report resume ids done (frame :: frames) :: rest)).pumpPerform
        rest (.record report resume ids done (frame :: frames)) =
          s.pumping { g with locals := (g.locals.add scope.listed).2 }
            (.record report resume ids (done ++ [scope.scope (g.locals.entries.size + 1)])
              (frame :: frames) :: rest) := by
      rw [System.pumpPerform]
      dsimp only
      rw [hnext]
      rfl
    refine .pumping (fun _ => PumpTask.noConfusion) hstep ?_
    refine ih _ (earlier ++ [scope]) _ (by rw [hscopes, List.append_assoc]; rfl)
      (by rw [List.length_append, List.length_append, hdone]; rfl) ?_
    rw [addAll_add, size_add, List.append_assoc]
    exact h

/-- The frames of a stop are put behind handles one by one, each with its scopes. -/
theorem until_recorded {report : DebugStop} {resume : Channel} {rest : List PumpTask}
    (ids : List Nat) (frames : List FrameInfo) (g : Registries)
    (h : Until .pump (·.notice?.isSome)
      (s.pumping
        { g with
          frames := addAll g.frames (frameTable g.locals.entries.size frames)
          locals := addAll g.locals (variablesByScope frames) }
        (.record report resume
          (ids ++ List.range' (g.frames.entries.size + 1) frames.length) [] [] :: rest)) u) :
    Until .pump (·.notice?.isSome) (s.pumping g (.record report resume ids [] frames :: rest)) u := by
  induction frames generalizing ids g with
  | nil =>
    rw [frameTable, addAll_nil, variablesByScope, List.flatMap_nil, List.map_nil, addAll_nil,
      List.length_nil, List.range'_zero, List.append_nil] at h
    exact h
  | cons frame frames ih =>
    refine until_scopes [] [] frame.scopes g rfl rfl ?_
    rw [List.nil_append]
    let scopes := showScopes g.locals.entries.size frame.scopes
    let g' : Registries :=
      { g with
        frames := (g.frames.add (.ofInfo frame scopes)).2
        locals := addAll g.locals (frame.scopes.map ScopeInfo.listed) }
    have hover : frame.scopes[scopes.length]? = none := by
      rw [length_showScopes]
      exact List.getElem?_eq_none (Nat.le_refl _)
    have hstep : (s.pumping { g with locals := addAll g.locals (frame.scopes.map ScopeInfo.listed) }
        (.record report resume ids scopes (frame :: frames) :: rest)).pumpPerform rest
          (.record report resume ids scopes (frame :: frames)) =
            s.pumping g' (.record report resume (ids ++ [g.frames.entries.size + 1]) [] frames ::
              rest) := by
      rw [System.pumpPerform]
      dsimp only
      rw [hover]
      rfl
    refine .pumping (fun _ => PumpTask.noConfusion) hstep (ih _ g' ?_)
    have hsize : g'.locals.entries.size = g.locals.entries.size + frame.scopes.length := by
      rw [size_addAll, List.length_map]
    have hframes : addAll g'.frames (frameTable g'.locals.entries.size frames) =
        addAll g.frames (frameTable g.locals.entries.size (frame :: frames)) := by
      rw [addAll_add, hsize, frameTable]
    have hlocals : addAll g'.locals (variablesByScope frames) =
        addAll g.locals (variablesByScope (frame :: frames)) := by
      rw [addAll_addAll, variablesByScope_cons]
    have hids : ids ++ [g.frames.entries.size + 1] ++
        List.range' (g'.frames.entries.size + 1) frames.length =
          ids ++ List.range' (g.frames.entries.size + 1) (frame :: frames).length := by
      rw [size_add, List.append_assoc, List.length_cons, List.range'_succ]
      rfl
    rw [hframes, hlocals, hids]
    exact h

/-- What the tables hold after a stop shows just that stop. -/
theorem Refines.stop {m : StopModel} {g' : Registries} (h : Refines g m)
    (hcleared : ∀ thread, g'.events.get? thread = (g.events.get? thread).map withoutFrames)
    (report : DebugStop) (resume : Channel) :
    Refines
      { events := (g'.events.retain report.thread
          ⟨report.thread, List.range' 1 report.frames.length, resume⟩).2
        frames := addAll {} (frameTable 0 report.frames)
        locals := addAll {} (variablesByScope report.frames) }
      { stopped := insert report.thread m.stopped, current := some report } where
  stopped thread := by
    rw [ThreadTable.get?_retain, Finset.mem_insert, ← h.stopped, hcleared]
    by_cases hthread : thread = report.thread <;> simp [hthread]
  thread_eq thread event hget := by
    rw [ThreadTable.get?_retain] at hget
    split at hget
    · rename_i hthread
      obtain rfl := Option.some.inj hget
      exact hthread.symm
    · obtain ⟨before, hbefore, rfl⟩ := Option.map_eq_some_iff.mp ((hcleared thread).symm.trans hget)
      exact h.thread_eq thread before hbefore
  frames_eq := rfl
  locals_eq := rfl
  listed thread event hget := by
    rw [ThreadTable.get?_retain] at hget
    split at hget
    · rename_i hthread
      obtain rfl := Option.some.inj hget
      rw [StopModel.framesOf_of_some rfl, if_pos hthread.symm]
      exact @filterMap_listed _ 0 [] report.frames rfl
    · rename_i hthread
      obtain ⟨before, -, rfl⟩ := Option.map_eq_some_iff.mp ((hcleared thread).symm.trans hget)
      rw [StopModel.framesOf_of_some rfl, if_neg (Ne.symm hthread)]
      rfl

/-- A thread stops: it is shown instead of all that was shown before. -/
theorem record_stop {m : StopModel} (h : Refines s.registries m) (report : DebugStop)
    (resume : Channel) :
    ∃ t, Exchange s (.stop report resume) (m.step (.stop report resume)).1 t ∧
      Refines t.registries (m.step (.stop report resume)).2 := by
  let purged : Registries := { s.registries with frames := {}, locals := {} }
  let event : StopEvent := ⟨report.thread, List.range' 1 report.frames.length, resume⟩
  let g := purged.events.threads.foldl dropFrames purged
  obtain ⟨hframes, hlocals⟩ := foldl_dropFrames_kept purged.events.threads purged
  have hcleared : ∀ thread, g.events.get? thread =
      (s.registries.events.get? thread).map withoutFrames := by
    intro thread
    refine (get?_foldl_dropFrames (g := purged) purged.events.threads h.thread_eq thread).trans ?_
    split
    · rfl
    · rename_i hmem
      have hnone : s.registries.events.get? thread = none := Option.eq_none_iff_forall_ne_some.mpr
        fun event hget => hmem (ThreadTable.mem_threads.mpr ⟨event, hget⟩)
      exact hnone.trans (congrArg (Option.map withoutFrames) hnone).symm
  let shown : Registries :=
    { events := (g.events.retain report.thread event).2
      frames := addAll {} (frameTable 0 report.frames)
      locals := addAll {} (variablesByScope report.frames) }
  refine ⟨s.pumping shown [.announce report], .stop ?_ rfl rfl,
    h.stop hcleared report resume⟩
  have hrecorded : Until .pump (·.notice?.isSome)
      (s.pumping g [.record report resume [] [] report.frames, .announce report])
      (s.pumping shown [.announce report]) := by
    refine until_recorded [] report.frames g ?_
    rw [hframes, hlocals]
    exact .pumping (fun _ => PumpTask.noConfusion) rfl
      (.pumping (fun _ => PumpTask.noConfusion) (pumping_retain s _ event _) (.here rfl))
  exact .pumping (fun _ => PumpTask.noConfusion) rfl
    (.pumping (fun _ => PumpTask.noConfusion) rfl
      (.pumping (fun _ => PumpTask.noConfusion) rfl
        (until_cleared purged.events.threads purged _ hrecorded)))

end Stopping

end DebugAdapter.Evaluation
