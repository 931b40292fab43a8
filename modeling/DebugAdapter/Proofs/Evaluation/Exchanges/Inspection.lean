import DebugAdapter.Proofs.Evaluation.Exchanges.Operations

/-! # Asking about stopped threads

A request about stopped threads is answered from the tables alone and leaves them as they are, but
for a request to go on, which takes a stop out of them. A purge empties them. -/

namespace DebugAdapter.Evaluation

open Debuggee Protocol Session

/-! ## Inspection -/

variable {s : System} {m : StopModel}

@[simp] theorem registries_withWork (s : System) (work : List Task) :
    (s.withWork work).registries = s.registries := rfl

theorem reply?_withWork_of_none (s : System) {task : Task} {rest : List Task}
    (h : task.answer? = none) : ¬ (s.withWork (task :: rest)).reply?.isSome := by
  rw [System.reply?, System.withWork]
  simp [h]

/-- The frames are looked up one after the other. -/
theorem until_findFrames (s : System) (request : Request) (arguments : StackTraceArguments)
    (ids : List Nat) (found : List StackFrame) (rest : List Task) :
    ∃ t, Until .session (·.reply?.isSome)
        (s.withWork (.findFrames request arguments ids found :: rest)) t ∧
      t.registries = s.registries ∧ t.session.work.tail = rest ∧
      t.reply? = some (.replied (some (.stackTrace
        { stackFrames := page arguments.startFrame arguments.levels
            (found ++ listedFrames s.registries.frames ids)
          totalFrames := some (Int64.ofNat
            (found ++ listedFrames s.registries.frames ids).length) }))) := by
  induction ids generalizing found s with
  | nil =>
    refine ⟨_, .perform rfl (reply?_withWork_of_none s rfl) (.here rfl), rfl, rfl, ?_⟩
    rw [listedFrames, List.filterMap_nil, List.append_nil]
    rfl
  | cons id ids ih =>
    obtain ⟨t, huntil, hregistries, htail, hreply⟩ := ih s
      (found ++ ((s.registries.frames.get? id).map (·.listed id)).toList)
    have hstep : (s.withWork (.findFrames request arguments (id :: ids) found :: rest)).perform rest
        (.findFrames request arguments (id :: ids) found) =
          s.withWork (.findFrames request arguments ids
            (found ++ ((s.registries.frames.get? id).map (·.listed id)).toList) :: rest) := by
      rw [System.perform, registries_withWork]
      change s.withWork _ = _
      cases s.registries.frames.get? id with
      | none => rw [Option.map_none, Option.toList_none, List.append_nil]
      | some frame => rfl
    have hlisted : listedFrames s.registries.frames (id :: ids) =
        ((s.registries.frames.get? id).map (·.listed id)).toList ++
          listedFrames s.registries.frames ids := by
      rw [listedFrames, List.filterMap_cons]
      cases s.registries.frames.get? id <;> rfl
    refine ⟨t, .perform rfl (reply?_withWork_of_none s rfl) (hstep ▸ huntil), hregistries, htail, ?_⟩
    rw [hlisted, ← List.append_assoc]
    exact hreply

theorem plan_request (seq : Int64) (q : Inquiry) :
    (planRequest (q.request seq)).1 =
      [match q with
      | .stackTrace a => .findStop (q.request seq) a
      | .scopes a => .findScopes (q.request seq) a
      | .members a => .findVariables (q.request seq) a
      | .proceed a => .release (q.request seq) a] := by
  cases q <;> rfl

theorem isDelivery_of_reply? {t : System} {answer : Answer} (hanswer : t.reply? = some answer)
    (hrest : ∀ task ∈ t.session.work.tail, task.IsDelivery) :
    ∀ task ∈ t.session.work, task.IsDelivery := by
  intro task hmem
  rw [System.reply?] at hanswer
  cases hwork : t.session.work with
  | nil =>
    rw [hwork] at hmem
    exact absurd hmem List.not_mem_nil
  | cons first rest =>
    rw [hwork] at hanswer hmem hrest
    rcases List.mem_cons.mp hmem with rfl | hmem
    · exact Task.isDelivery_of_answer? hanswer
    · exact hrest task hmem

/-- A task that finds out its answer in one step. -/
theorem exchange_of_perform {seq : Int64} {q : Inquiry} {task : Task} {answer : Answer}
    (hplan : (planRequest (q.request seq)).1 = [task]) (htask : task.answer? = none)
    (hanswer : ((s.withWork [task]).perform [] task).reply? = some answer)
    (hrest : ((s.withWork [task]).perform [] task).session.work.tail = []) :
    Exchange s (.ask seq q) answer ((s.withWork [task]).perform [] task) := by
  refine .ask ?_ hanswer (isDelivery_of_reply? hanswer ?_)
  · rw [hplan]
    exact .perform rfl (reply?_withWork_of_none s htask) (.here (hanswer ▸ rfl))
  · rw [hrest]
    exact fun _ hmem => absurd hmem List.not_mem_nil

/-- What a client is told that asks something, read off the tables. -/
def replyFrom (g : Registries) : Inquiry → Answer
  | .stackTrace a =>
    match g.events.get? a.threadId with
    | some event =>
      .replied (some (.stackTrace
        { stackFrames := page a.startFrame a.levels (listedFrames g.frames event.frameIds)
          totalFrames := some (Int64.ofNat (listedFrames g.frames event.frameIds).length) }))
    | none => StopModel.notStopped a.threadId
  | .scopes a =>
    match g.frames.get? a.frameId.toInt with
    | some frame => .replied (some (.scopes { scopes := frame.scopes }))
    | none => .refused ("Invalid frame id " ++ seqText a.frameId)
  | .members a =>
    match g.locals.get? a.variablesReference.toInt with
    | some found => .replied (some (.variableList { members := page a.start a.count found }))
    | none => .refused ("Invalid variables reference " ++ seqText a.variablesReference)
  | .proceed a =>
    match g.events.get? a.threadId with
    | some _ => .replied (some (.resumed { allThreadsContinued := some false }))
    | none => StopModel.notStopped a.threadId

/-- The tables after a client asked something. A thread that goes on takes the frames and variables
of all threads with it. -/
def tablesAfter (g : Registries) : Inquiry → Registries
  | .proceed a =>
    match g.events.get? a.threadId with
    | some _ =>
      { events := (g.events.release a.threadId).2
        frames := g.frames.purge
        locals := g.locals.purge }
    | none => g
  | _ => g

theorem exchange_stackTrace (s : System) (seq : Int64) (a : StackTraceArguments) :
    ∃ t, Exchange s (.ask seq (.stackTrace a)) (replyFrom s.registries (.stackTrace a)) t ∧
      t.registries = s.registries := by
  let request := (Inquiry.stackTrace a).request seq
  cases hget : s.registries.events.get? a.threadId with
  | none =>
    have hstep : (s.withWork [.findStop request a]).perform [] (.findStop request a) =
        s.withWork [.fail request (System.notStopped a.threadId)] := by
      rw [System.perform, registries_withWork, hget]
      rfl
    have hreply : replyFrom s.registries (.stackTrace a) = StopModel.notStopped a.threadId := by
      simp only [replyFrom, hget]
    refine ⟨_, exchange_of_perform (plan_request seq (.stackTrace a)) rfl ?_ ?_, ?_⟩
    · rw [hstep, hreply]
      rfl
    · rw [hstep]
      rfl
    · rw [hstep]
      rfl
  | some event =>
    have hstep : (s.withWork [.findStop request a]).perform [] (.findStop request a) =
        { s with session := { s.session with held := some event } }.withWork
          [.findFrames request a event.frameIds []] := by
      rw [System.perform, registries_withWork, hget]
      rfl
    obtain ⟨t, huntil, hregistries, htail, hreply⟩ :=
      until_findFrames { s with session := { s.session with held := some event } } request a
        event.frameIds [] []
    refine ⟨t, .ask ?_ ?_ (isDelivery_of_reply? hreply ?_), hregistries⟩
    · rw [plan_request]
      exact .perform rfl (reply?_withWork_of_none s rfl) (hstep ▸ huntil)
    · simp only [replyFrom, hget]
      rw [hreply]
      rfl
    · rw [htail]
      exact fun _ hmem => absurd hmem List.not_mem_nil

theorem exchange_scopes (s : System) (seq : Int64) (a : ScopesArguments) :
    ∃ t, Exchange s (.ask seq (.scopes a)) (replyFrom s.registries (.scopes a)) t ∧
      t.registries = s.registries := by
  refine ⟨_, exchange_of_perform (plan_request seq (.scopes a)) rfl ?_ ?_, rfl⟩
  · rw [System.perform, registries_withWork, replyFrom]
    cases s.registries.frames.get? a.frameId.toInt <;> rfl
  · rw [System.perform, registries_withWork]
    cases s.registries.frames.get? a.frameId.toInt <;> rfl

theorem exchange_members (s : System) (seq : Int64) (a : VariablesArguments) :
    ∃ t, Exchange s (.ask seq (.members a)) (replyFrom s.registries (.members a)) t ∧
      t.registries = s.registries := by
  refine ⟨_, exchange_of_perform (plan_request seq (.members a)) rfl ?_ ?_, rfl⟩
  · rw [System.perform, registries_withWork, replyFrom]
    cases s.registries.locals.get? a.variablesReference.toInt <;> rfl
  · rw [System.perform, registries_withWork]
    cases s.registries.locals.get? a.variablesReference.toInt <;> rfl

/-! ## Going on and purging -/

theorem listedFrames_purge (frames : Handles Frame) (ids : List Nat) :
    listedFrames frames.purge ids = [] := by
  refine List.filterMap_eq_nil_iff.mpr fun id _ => ?_
  have hnone : frames.purge.get? id = none := by
    rw [Handles.get?]
    split <;> rfl
  rw [hnone]
  rfl

/-- A thread goes on: nothing is shown any more, whatever thread it is. -/
theorem Refines.release {g : Registries} (h : Refines g m) (thread : Int64) :
    Refines
      { events := (g.events.release thread).2
        frames := g.frames.purge
        locals := g.locals.purge }
      { stopped := m.stopped.erase thread } where
  stopped other := by
    rw [ThreadTable.get?_release, Finset.mem_erase, ← h.stopped]
    by_cases hother : other = thread <;> simp [hother]
  thread_eq other event hget := by
    rw [ThreadTable.get?_release] at hget
    split at hget
    · exact nomatch hget
    · exact h.thread_eq other event hget
  frames_eq := rfl
  locals_eq := rfl
  listed other event _ := by
    rw [listedFrames_purge]
    exact (StopModel.framesOf_of_none rfl other).symm

/-- What is left to do when a thread was taken that shall go on. -/
def resuming (request : Request) (thread : Int64) : List Task :=
  [.respond request (some (.resumed { allThreadsContinued := some false })),
    .send (.event (.ofBody (.continued
      { threadId := thread, allThreadsContinued := some false }))),
    .resume]

theorem exchange_proceed (s : System) (seq : Int64) (a : ContinueArguments) :
    ∃ t, Exchange s (.ask seq (.proceed a)) (replyFrom s.registries (.proceed a)) t ∧
      t.registries = tablesAfter s.registries (.proceed a) := by
  let request := (Inquiry.proceed a).request seq
  cases hget : s.registries.events.get? a.threadId with
  | none =>
    have hstep : (s.withWork [.release request a]).perform [] (.release request a) =
        s.withWork [.fail request (System.notStopped a.threadId)] := by
      rw [System.perform, registries_withWork, ThreadTable.release, hget]
      rfl
    simp only [replyFrom, tablesAfter, hget]
    refine ⟨_, exchange_of_perform (plan_request seq (.proceed a)) rfl ?_ ?_, ?_⟩
    · rw [hstep]
      rfl
    · rw [hstep]
      rfl
    · rw [hstep]
      rfl
  | some event =>
    let released : System :=
      { s with
        registries := { s.registries with events := (s.registries.events.release a.threadId).2 }
        session := { s.session with held := some event } }
    have hstep : (s.withWork [.release request a]).perform [] (.release request a) =
        released.withWork (.purgeFrames :: .purgeVariables :: resuming request a.threadId) := by
      rw [System.perform, registries_withWork, ThreadTable.release, hget]
      rfl
    simp only [replyFrom, tablesAfter, hget]
    let answering : System :=
      { released with
        registries :=
          { events := (s.registries.events.release a.threadId).2
            frames := s.registries.frames.purge
            locals := s.registries.locals.purge } }.withWork (resuming request a.threadId)
    refine ⟨answering, .ask ?_ rfl (isDelivery_of_reply? rfl ?_), rfl⟩
    case refine_2 =>
      intro task hmem
      rcases List.mem_cons.mp hmem with rfl | hmem
      · trivial
      · obtain rfl := List.mem_singleton.mp hmem
        trivial
    rw [plan_request]
    refine .perform rfl (reply?_withWork_of_none s rfl) ?_
    have hpurge : Until .session (·.reply?.isSome)
        (released.withWork (.purgeFrames :: .purgeVariables :: resuming request a.threadId))
        answering :=
      .perform rfl (reply?_withWork_of_none released rfl)
        (.perform rfl (reply?_withWork_of_none _ rfl) (.here rfl))
    exact hstep ▸ hpurge

/-- A client that asks something is told what the tables say. -/
theorem exchange_ask (s : System) (seq : Int64) (q : Inquiry) :
    ∃ t, Exchange s (.ask seq q) (replyFrom s.registries q) t ∧
      t.registries = tablesAfter s.registries q := by
  cases q with
  | stackTrace a => exact exchange_stackTrace s seq a
  | scopes a => exact exchange_scopes s seq a
  | members a => exact exchange_members s seq a
  | proceed a => exact exchange_proceed s seq a

/-- Tables that show what the model says answer as the model does. -/
theorem Refines.replyFrom_eq {g : Registries} (h : Refines g m) (q : Inquiry) :
    replyFrom g q = m.answer q := by
  cases q with
  | stackTrace a =>
    rw [replyFrom, StopModel.answer]
    cases hget : g.events.get? a.threadId with
    | none => rw [if_neg (by simp [← h.stopped, hget])]
    | some event =>
      dsimp only
      rw [if_pos (by simp [← h.stopped, hget]), h.listed _ _ hget]
  | scopes a =>
    have hnumbered : numbered (scopesByFrame 0 m.frames) a.frameId =
        (g.frames.get? a.frameId.toInt).map Frame.scopes := by
      rw [numbered, Handles.get?_eq, h.frames_eq, ← map_scopes_frameTable, List.getElem?_map]
      split <;> rfl
    cases hget : g.frames.get? a.frameId.toInt with
    | none => rw [replyFrom, StopModel.answer, hnumbered, hget, Option.map_none]
    | some frame => rw [replyFrom, StopModel.answer, hnumbered, hget, Option.map_some]
  | members a =>
    have hnumbered : numbered (variablesByScope m.frames) a.variablesReference =
        g.locals.get? a.variablesReference.toInt := by
      rw [numbered, Handles.get?_eq, h.locals_eq]
    cases hget : g.locals.get? a.variablesReference.toInt with
    | none => rw [replyFrom, StopModel.answer, hnumbered, hget]
    | some listed => rw [replyFrom, StopModel.answer, hnumbered, hget]
  | proceed a =>
    rw [replyFrom, StopModel.answer]
    cases hget : g.events.get? a.threadId with
    | none => rw [if_neg (by simp [← h.stopped, hget])]
    | some event => rw [if_pos (by simp [← h.stopped, hget])]

theorem Refines.after {g : Registries} (h : Refines g m) (seq : Int64) (q : Inquiry) :
    Refines (tablesAfter g q) (m.step (.ask seq q)).2 := by
  cases q with
  | stackTrace | scopes | members => exact h
  | proceed a =>
    rw [tablesAfter, StopModel.step]
    cases hget : g.events.get? a.threadId with
    | none =>
      rw [if_neg (by simp [← h.stopped, hget])]
      exact h
    | some event =>
      rw [if_pos (by simp [← h.stopped, hget])]
      exact h.release a.threadId

/-- Nothing is stopped any more, and nothing is shown. -/
theorem purge_all (s : System) : ∃ t, Exchange s .purge .purged t ∧ Refines t.registries {} := by
  refine ⟨({ s with registries := {} } : System).withWork [], .purge ?_, .empty⟩
  have hbusy : ∀ (s : System) (task : Task) (rest : List Task),
      ¬ (s.withWork (task :: rest)).session.work = [] := fun _ _ _ h => nomatch h
  exact .perform rfl (hbusy _ _ _) (.perform rfl (hbusy _ _ _) (.perform rfl (hbusy _ _ _) (.here rfl)))

end DebugAdapter.Evaluation
