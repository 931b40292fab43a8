import DebugAdapter.Proofs.Debuggee.Tables
import DebugAdapter.Proofs.Evaluation.Handoff

/-! # Who holds a stop

When an engine stops on one thread only, every stop is in one place at a time: with the engine, in
the queue, with the pump, in the table, or with the session. The places are the phases of a run. -/

namespace DebugAdapter.Evaluation

open Debuggee Protocol Session

/-! ## Engines that stop on one thread -/

/-- Every stop is reported by the thread on which the program is evaluated. -/
def Script.IsSingle : Script → Prop
  | .finish _ => True
  | .write _ _ next => next.IsSingle
  | .stop _ resumed refused => resumed.IsSingle ∧ refused.IsSingle
  | .stopAside _ _ => False
  | .awaitEnd next => next.IsSingle

/-- The engine reports its stops from one thread in a run, the one on which the program is evaluated. -/
structure OnOneThread (script : Script) (log : List Happening) : Prop where
  single : script.IsSingle
  alone : ∀ x ∈ log, x.isReport = false

theorem OnOneThread.of_append {script : Script} {log more : List Happening}
    (h : OnOneThread script (log ++ more)) : OnOneThread script log :=
  ⟨h.single, fun x hx => h.alone x (List.mem_append_left _ hx)⟩

theorem OnOneThread.alone_append {script : Script} {log more : List Happening}
    (h : OnOneThread script (log ++ more)) : ∀ x ∈ more, x.isReport = false :=
  fun x hx => h.alone x (List.mem_append_right _ hx)

namespace EngineThread

/-- The channel on which the thread waits. -/
def waits? : EngineThread → Option Channel
  | .waiting c _ _ => some c
  | _ => none

/-- From now on every stop is reported by this thread. -/
def IsSingle : EngineThread → Prop
  | .running script => script.IsSingle
  | .waiting _ resumed refused => resumed.IsSingle ∧ refused.IsSingle
  | .finishing items => ∀ item ∈ items, item.stop? = none
  | _ => True

end EngineThread

/-- A system whose engine stops on one thread. -/
structure Solo (s : System) : Prop where
  script : s.script.IsSingle
  engine : s.engine.IsSingle
  aside : s.aside = []
  received : s.queue.received = true
  idle : s.session.started = false → s.engine = .idle

/-! ## Who holds a stop -/

/-- The task neither looks at stops nor makes one. -/
def PumpTask.IsPlain : PumpTask → Prop
  | .send _ | .cancel | .purgeEvents | .purgeFrames | .purgeVariables => True
  | _ => False

/-- What the pump is about, and which stop it still has to put into the table. -/
inductive PumpPlan : Option (DebugStop × Channel) → List PumpTask → Prop where
  | nil : PumpPlan none []
  | plain {noted task rest} (h : PumpTask.IsPlain task) (hrest : PumpPlan noted rest) :
      PumpPlan noted (task :: rest)
  | announce {report rest} (hrest : PumpPlan none rest) : PumpPlan none (.announce report :: rest)
  | list {stop rest} (hrest : PumpPlan (some stop) rest) :
      PumpPlan (some stop) (.listStopped :: rest)
  | record {report c ids scopes frames rest} (hrest : PumpPlan none rest) :
      PumpPlan (some (report, c)) (.record report c ids scopes frames :: rest)
  | retain {report c ids rest} (hrest : PumpPlan none rest) :
      PumpPlan (some (report, c)) (.retain ⟨report.thread, ids, c⟩ :: rest)

theorem pumpPlan_planItem (item : Item) : PumpPlan item.stop? (planItem item) := by
  cases item with
  | output | exited => exact .plain trivial .nil
  | terminated => exact .plain trivial (.plain trivial .nil)
  | stopped report c =>
    exact .plain trivial (.plain trivial (.list (.record (.announce .nil))))

/-- The stops in the queue, the stop with the pump, and the stops in the table. -/
structure Holds (s : System) (queued : List (DebugStop × Channel))
    (noted : Option (DebugStop × Channel)) (listed : List StopEvent) : Prop where
  queued_eq : s.queue.items.filterMap Item.stop? = queued
  plan : PumpPlan noted s.pump
  listed_eq : s.registries.events.entries = listed.map fun event => (event.thread, event)

/-- Where the stop is. In the table it may get lost. -/
def Placed (s : System) : Phase → Prop
  | .waiting report c .reported =>
    Holds s [(report, c)] none [] ∨ Holds s [] (some (report, c)) []
  | .waiting report c (.recorded event) =>
    event.thread = report.thread ∧ event.resume = c ∧
      (Holds s [] none [event] ∨ Holds s [] none [])
  | _ => Holds s [] none []

namespace Task

/-- The task makes no thread go on. -/
def IsCalm : Task → Prop
  | .resume => False
  | .release request arguments =>
    request.command = "continue" ∧ request.arguments = some (.resume arguments)
  | _ => True

end Task

/-- What the session is about. -/
def Busy (session : SessionThread) : Phase → Prop
  | .waiting _ c (.accepted _ event unsent) =>
    session.held = some event ∧ event.resume = c ∧ ∃ purges rest,
      session.work = purges ++ (unsent.map Task.send ++ .resume :: rest) ∧
        (∀ task ∈ purges, task = .purgeFrames ∨ task = .purgeVariables) ∧
        ∀ task ∈ rest, task.IsCalm
  | _ => ∀ task ∈ session.work, task.IsCalm

namespace Phase

def channel? : Phase → Option Channel
  | .going _ => none
  | .waiting _ c _ => some c

/-- How many channels were made. -/
def channels : Phase → Nat
  | .going n => n
  | .waiting _ c _ => c + 1

/-- How many channels there are on which a thread may have been told to go on. -/
def signalled : Phase → Nat
  | .going n => n
  | .waiting _ c .resumed => c + 1
  | .waiting _ c _ => c

end Phase

/-- The system is in a phase. -/
structure At (s : System) (phase : Phase) : Prop where
  waits : s.engine.waits? = phase.channel?
  channels : s.channels = phase.channels
  signals : ∀ c ∈ s.signals, c < phase.signalled
  told : ∀ report c, phase = .waiting report c .resumed → c ∈ s.signals
  placed : Placed s phase
  busy : Busy s.session phase

section Step

variable {s t : System} {phase : Phase}

/-! ## Steps that hand nothing over -/

theorem Holds.keep {queued : List (DebugStop × Channel)} {noted : Option (DebugStop × Channel)}
    {listed : List StopEvent} (h : Holds s queued noted listed)
    (hqueue : t.queue.items.filterMap Item.stop? = s.queue.items.filterMap Item.stop?)
    (hplan : PumpPlan noted t.pump)
    (hevents : t.registries.events = s.registries.events ∨ t.registries.events = {}) :
    Holds t queued noted listed ∨ Holds t queued noted [] := by
  rcases hevents with hevents | hevents
  · exact .inl ⟨hqueue.trans h.queued_eq, hplan, hevents ▸ h.listed_eq⟩
  · exact .inr ⟨hqueue.trans h.queued_eq, hplan, by rw [hevents]; rfl⟩

/-- A step in which no stop changes hands, though the table may be emptied. -/
theorem Placed.keep (h : Placed s phase)
    (hqueue : t.queue.items.filterMap Item.stop? = s.queue.items.filterMap Item.stop?)
    (hplan : ∀ noted, noted = none ∨ s.registries.events.entries = [] →
      PumpPlan noted s.pump → PumpPlan noted t.pump)
    (hevents : t.registries.events = s.registries.events ∨ t.registries.events = {}) :
    Placed t phase := by
  have hnone : ∀ {queued listed}, Holds s queued none listed →
      Holds t queued none listed ∨ Holds t queued none [] :=
    fun h => h.keep hqueue (hplan none (.inl rfl) h.plan) hevents
  have hempty : ∀ {queued noted}, Holds s queued noted [] → Holds t queued noted [] :=
    fun h => (h.keep hqueue (hplan _ (.inr h.listed_eq) h.plan) hevents).elim id id
  cases phase with
  | going => exact hempty h
  | waiting report c stage =>
    cases stage with
    | reported => exact h.imp hempty hempty
    | recorded event =>
      obtain ⟨hthread, hresume, hheld⟩ := h
      exact ⟨hthread, hresume, hheld.elim hnone fun h => .inr (hempty h)⟩
    | accepted | failed | resumed => exact hempty h

end Step

end DebugAdapter.Evaluation
