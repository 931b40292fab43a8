import DebugAdapter.Proofs.Evaluation.Delivery

/-! # What the pump has in hand

For a stop the pump purges the handles of the stop before, takes the frames away from all threads that
are stopped, puts the scopes and the frames of the report behind handles, and keeps the stop. What is
left of that to do is what the pump has in hand. -/

namespace DebugAdapter.Evaluation

open Debuggee Protocol Session

/-! ## How far the pump has got -/

/-- What the pump has in hand of a stop that it took. -/
inductive Hand where
  /-- Nothing. -/
  | none
  /-- The stop is taken. -/
  | taken (report : DebugStop) (c : Channel)
  /-- The frames are purged. -/
  | purging (report : DebugStop) (c : Channel)
  /-- The variables are purged, too. -/
  | purged (report : DebugStop) (c : Channel)
  /-- The stop of a thread is read next, and then those of others. -/
  | reading (report : DebugStop) (c : Channel) (thread : Int64) (todo : List Int64)
  /-- A stop was read, and is written back without its frames. -/
  | writing (report : DebugStop) (c : Channel) (event : StopEvent) (todo : List Int64)
  /-- Handles were given out, and some frames may be left. -/
  | listing (report : DebugStop) (c : Channel) (ids : List Nat) (scopes : List Scope)
      (frames : List FrameInfo)
  /-- All frames have handles. -/
  | keeping (report : DebugStop) (c : Channel) (ids : List Nat)

namespace Hand

/-- The stop that the pump works on, until it is kept. -/
def stop? : Hand → Option (DebugStop × Channel)
  | none => .none
  | taken report c | purging report c | purged report c | reading report c _ _
  | writing report c _ _ | listing report c _ _ _ | keeping report c _ => some (report, c)

/-- The stop that was read and not written back yet. -/
def read? : Hand → Option StopEvent
  | writing _ _ event _ => some event
  | _ => .none

/-- The stops of some threads are to be read before handles are given out. -/
def clear (report : DebugStop) (c : Channel) : List Int64 → Hand
  | [] => listing report c [] [] report.frames
  | thread :: todo => reading report c thread todo

/-- What is left to do for the stop before it is kept. -/
def tasks : Hand → List PumpTask
  | none => []
  | taken report c =>
    [.purgeFrames, .purgeVariables, .listStopped, .record report c [] [] report.frames]
  | purging report c => [.purgeVariables, .listStopped, .record report c [] [] report.frames]
  | purged report c => [.listStopped, .record report c [] [] report.frames]
  | reading report c thread todo =>
    (thread :: todo).map .findStop ++ [.record report c [] [] report.frames]
  | writing report c event todo =>
    .retain event :: (todo.map .findStop ++ [.record report c [] [] report.frames])
  | listing report c ids scopes frames => [.record report c ids scopes frames]
  | keeping report c ids => [.retain ⟨report.thread, ids, c⟩]

@[simp] theorem stop?_clear (report : DebugStop) (c : Channel) (todo : List Int64) :
    (clear report c todo).stop? = some (report, c) := by
  cases todo <;> rfl

@[simp] theorem read?_clear (report : DebugStop) (c : Channel) (todo : List Int64) :
    (clear report c todo).read? = .none := by
  cases todo <;> rfl

end Hand

/-- The tasks of the pump are those for the stop that it has in hand, which is made known after that.
When it has none in hand, no task puts a stop into the table. -/
inductive InHand : Hand → List PumpTask → Prop where
  | idle {tasks} (h : ∀ task ∈ tasks, ¬task.Fills) : InHand .none tasks
  | works {hand report c} (h : hand.stop? = some (report, c)) :
      InHand hand (hand.tasks ++ [.announce report])

theorem InHand.pump_eq {hand : Hand} {pump : List PumpTask} {report : DebugStop} {c : Channel}
    (h : InHand hand pump) (hstop : hand.stop? = some (report, c)) :
    pump = hand.tasks ++ [PumpTask.announce report] := by
  cases h with
  | idle => exact nomatch hstop
  | works hother =>
    obtain ⟨rfl, -⟩ := Prod.mk.inj (Option.some.inj (hother.symm.trans hstop))
    rfl

theorem inHand_clear (report : DebugStop) (c : Channel) (todo : List Int64) :
    InHand (.clear report c todo)
      (todo.map .findStop ++ [PumpTask.record report c [] [] report.frames, .announce report]) := by
  cases todo with
  | nil => exact .works rfl
  | cons thread todo =>
    have hworks : InHand (.reading report c thread todo) _ := .works rfl
    simpa [Hand.clear, Hand.tasks] using hworks

/-! ## What happens to the tables -/

/-- The pump takes a stop. -/
def Happening.takenStop? : Happening → Option (DebugStop × Channel)
  | .taken item => item.stop?
  | _ => none

/-- The stops that the pump took. -/
def takenStops (log : List Happening) : List (DebugStop × Channel) :=
  log.filterMap Happening.takenStop?

def Happening.recorded? : Happening → Option StopEvent
  | .recorded event => some event
  | _ => none

/-- What was put into the table of stops, one after the other. -/
def recordeds (log : List Happening) : List StopEvent := log.filterMap Happening.recorded?

theorem takenStops_append (log more : List Happening) :
    takenStops (log ++ more) = takenStops log ++ takenStops more := List.filterMap_append

theorem recordeds_append (log more : List Happening) :
    recordeds (log ++ more) = recordeds log ++ recordeds more := List.filterMap_append

/-- Only the pump takes stops and puts them into the table. -/
theorem records_of_isBy {actor : Actor} {log : List Happening} (h : ∀ x ∈ log, x.IsBy actor)
    (hactor : actor ≠ .pump) : takenStops log = [] ∧ recordeds log = [] := by
  constructor
  · refine List.filterMap_eq_nil_iff.mpr fun x hx => ?_
    cases x with
    | taken => exact absurd (h _ hx) hactor
    | _ => rfl
  · refine List.filterMap_eq_nil_iff.mpr fun x hx => ?_
    cases x with
    | recorded => exact absurd (h _ hx) hactor
    | _ => rfl

/-- Something may be gone from the tables, and nothing is added. -/
structure Thins (g g' : Registries) : Prop where
  events : ∀ thread event, g'.events.get? thread = some event → g.events.get? thread = some event
  frames : g'.frames = g.frames ∨ g'.frames = {}
  locals : g'.locals = g.locals ∨ g'.locals = {}

theorem Thins.refl (g : Registries) : Thins g g := ⟨fun _ _ => id, .inl rfl, .inl rfl⟩

/-- A step of the pump, with what it has in hand and what the tables hold before and after it. -/
inductive Records : Hand → Registries → List Happening → Hand → Registries → Prop where
  /-- No stop is worked on. -/
  | idle {g g' more} (htaken : takenStops more = []) (hrecorded : recordeds more = [])
      (hthins : Thins g g') : Records .none g more .none g'
  | takes {g report c} : Records .none g [.taken (.stopped report c)] (.taken report c) g
  | purgesFrames {g report c} :
      Records (.taken report c) g [] (.purging report c) { g with frames := {} }
  | purgesLocals {g report c} :
      Records (.purging report c) g [] (.purged report c) { g with locals := {} }
  | finds {g report c} :
      Records (.purged report c) g [] (.clear report c g.events.threads) g
  | misses {g report c thread todo} (hget : g.events.get? thread = none) :
      Records (.reading report c thread todo) g [] (.clear report c todo) g
  | reads {g report c thread todo event} (hget : g.events.get? thread = some event) :
      Records (.reading report c thread todo) g []
        (.writing report c { event with frameIds := [] } todo) g
  | writes {g report c event todo} :
      Records (.writing report c event todo) g [.recorded event] (.clear report c todo)
        { g with events := (g.events.retain event.thread event).2 }
  | addsScope {g report c ids scopes frame frames scope}
      (hscope : frame.scopes[scopes.length]? = some scope) :
      Records (.listing report c ids scopes (frame :: frames)) g []
        (.listing report c ids (scopes ++ [scope.scope (g.locals.entries.size + 1)])
          (frame :: frames))
        { g with locals := (g.locals.add scope.listed).2 }
  | addsFrame {g report c ids scopes frame frames} (hscope : frame.scopes[scopes.length]? = none) :
      Records (.listing report c ids scopes (frame :: frames)) g []
        (.listing report c (ids ++ [g.frames.entries.size + 1]) [] frames)
        { g with frames := (g.frames.add (.ofInfo frame scopes)).2 }
  | lists {g report c ids scopes} :
      Records (.listing report c ids scopes []) g [] (.keeping report c ids) g
  | keeps {g report c ids} :
      Records (.keeping report c ids) g [.recorded ⟨report.thread, ids, c⟩] .none
        { g with events := (g.events.retain report.thread ⟨report.thread, ids, c⟩).2 }

section Step

variable {s t : System} {hand : Hand}

/-- A task that puts no stop into the table leads to none that does. -/
theorem not_fills_pumpPerform {rest : List PumpTask} {task : PumpTask} (htask : ¬task.Fills)
    (hrest : ∀ next ∈ rest, ¬next.Fills) :
    (∀ next ∈ (s.pumpPerform rest task).pump, ¬next.Fills) ∧
      Thins s.registries (s.pumpPerform rest task).registries := by
  cases task with
  | listStopped | findStop | retain | record => exact absurd trivial htask
  | send | cancel => exact ⟨hrest, .refl _⟩
  | purgeEvents => exact ⟨hrest, fun _ _ h => (nomatch h), .inl rfl, .inl rfl⟩
  | purgeFrames => exact ⟨hrest, fun _ _ => id, .inr rfl, .inl rfl⟩
  | purgeVariables => exact ⟨hrest, fun _ _ => id, .inl rfl, .inr rfl⟩
  | announce report =>
    refine ⟨?_, .refl _⟩
    rw [System.pumpPerform]
    dsimp only
    split
    · simp only [List.forall_mem_cons]
      exact ⟨id, id, id, hrest⟩
    · exact List.forall_mem_cons.mpr ⟨id, hrest⟩

theorem inHand_planItem (item : Item) :
    (item.stop? = none ∧ InHand .none (planItem item)) ∨
      ∃ report c, item = .stopped report c ∧ InHand (.taken report c) (planItem item) := by
  cases item with
  | stopped report c =>
    have hworks : InHand (.taken report c) _ := .works rfl
    exact .inr ⟨report, c, rfl, hworks⟩
  | output | exited => exact .inl ⟨rfl, .idle (List.forall_mem_singleton.mpr id)⟩
  | terminated =>
    exact .inl ⟨rfl, .idle (List.forall_mem_cons.mpr ⟨id, List.forall_mem_singleton.mpr id⟩)⟩

/-- The task neither posts a message nor puts a stop into the table. -/
def PumpTask.IsQuiet : PumpTask → Prop
  | .send _ | .retain _ => False
  | _ => True

theorem silent_step {task : PumpTask} {rest : List PumpTask} (hstep : s.pump? = some t)
    (hpump : s.pump = task :: rest) (hquiet : task.IsQuiet) :
    t = s.pumpPerform rest task ∧ s.pumpHappenings = [] := by
  rw [System.pump?, hpump] at hstep
  rw [System.pumpHappenings, hpump]
  refine ⟨(Option.some.inj hstep).symm, ?_⟩
  cases task with
  | send | retain => exact hquiet.elim
  | _ => rfl

theorem retain_step {event : StopEvent} {rest : List PumpTask} (hstep : s.pump? = some t)
    (hpump : s.pump = .retain event :: rest) :
    t = s.pumpPerform rest (.retain event) ∧ s.pumpHappenings = [.recorded event] := by
  rw [System.pump?, hpump] at hstep
  rw [System.pumpHappenings, hpump]
  exact ⟨(Option.some.inj hstep).symm, rfl⟩

/-- A step of the pump that has no stop in hand. -/
theorem records_idle (h : ∀ task ∈ s.pump, ¬task.Fills) (hstep : s.pump? = some t) :
    ∃ hand, InHand hand t.pump ∧ Records .none s.registries s.pumpHappenings hand t.registries := by
  cases System.pumpStep hstep with
  | @performs task rest hpump =>
    rw [hpump] at h
    obtain ⟨htask, hrest⟩ := List.forall_mem_cons.mp h
    obtain ⟨hnext, hthins⟩ := not_fills_pumpPerform (s := s) htask hrest
    have hnone : takenStops s.pumpHappenings = [] ∧ recordeds s.pumpHappenings = [] := by
      rw [System.pumpHappenings, hpump]
      cases task with
      | retain => exact absurd trivial htask
      | _ => exact ⟨rfl, rfl⟩
    exact ⟨.none, .idle hnext, .idle hnone.1 hnone.2 hthins⟩
  | @takes item items hpump hitems hmore =>
    rw [hmore]
    rcases inHand_planItem item with ⟨hstop, hplan⟩ | ⟨report, c, rfl, hplan⟩
    · refine ⟨_, hplan, .idle ?_ rfl (.refl _)⟩
      simp [takenStops, Happening.takenStop?, hstop]
    · exact ⟨_, hplan, .takes⟩

/-- What a step of the pump does depends on what it has in hand. -/
theorem records_pump (h : InHand hand s.pump) (hstep : s.pump? = some t) :
    ∃ hand', InHand hand' t.pump ∧
      Records hand s.registries s.pumpHappenings hand' t.registries := by
  cases hand with
  | none =>
    generalize hpump : s.pump = pump at h
    cases h with
    | idle h => exact records_idle (hpump ▸ h) hstep
    | works hstop => exact nomatch hstop
  | taken report c =>
    obtain ⟨rfl, hmore⟩ := silent_step hstep (h.pump_eq rfl) trivial
    rw [hmore]
    exact ⟨.purging report c, .works rfl, .purgesFrames⟩
  | purging report c =>
    obtain ⟨rfl, hmore⟩ := silent_step hstep (h.pump_eq rfl) trivial
    rw [hmore]
    exact ⟨.purged report c, .works rfl, .purgesLocals⟩
  | purged report c =>
    obtain ⟨rfl, hmore⟩ := silent_step hstep (h.pump_eq rfl) trivial
    rw [hmore]
    exact ⟨_, inHand_clear report c _, .finds⟩
  | reading report c thread todo =>
    obtain ⟨rfl, hmore⟩ := silent_step hstep (h.pump_eq rfl) trivial
    rw [hmore, System.pumpPerform]
    cases hget : s.registries.events.get? thread with
    | none => exact ⟨_, by simpa using inHand_clear report c todo, .misses hget⟩
    | some event =>
      have hworks : InHand (.writing report c { event with frameIds := [] } todo) _ := .works rfl
      exact ⟨_, by simpa [Hand.tasks] using hworks, .reads hget⟩
  | writing report c event todo =>
    obtain ⟨rfl, hmore⟩ := retain_step hstep (h.pump_eq rfl)
    rw [hmore]
    exact ⟨_, by simpa [System.pumpPerform] using inHand_clear report c todo, .writes⟩
  | listing report c ids scopes frames =>
    obtain ⟨rfl, hmore⟩ := silent_step hstep (h.pump_eq rfl) trivial
    rw [hmore]
    cases frames with
    | nil => exact ⟨.keeping report c ids, .works rfl, .lists⟩
    | cons frame frames =>
      rw [System.pumpPerform]
      cases hscope : frame.scopes[scopes.length]? with
      | some scope => exact ⟨.listing report c ids _ _, .works rfl, .addsScope hscope⟩
      | none => exact ⟨.listing report c _ [] frames, .works rfl, .addsFrame hscope⟩
  | keeping report c ids =>
    obtain ⟨rfl, hmore⟩ := retain_step hstep (h.pump_eq rfl)
    rw [hmore]
    exact ⟨.none, .idle (List.forall_mem_singleton.mpr id), .keeps⟩

end Step

end DebugAdapter.Evaluation
