import DebugAdapter.Proofs.Evaluation.Runs.Steps

/-! # Who does what

What happens in a step is done by the thread that makes the step. So there are four kinds of moves:
those of the session, of the pump, of the threads of the engine, and of the client. -/

namespace DebugAdapter.Evaluation

open Debuggee Protocol Session

/-- Whether a thread may be the one that does it. -/
def Happening.IsBy (actor : Actor) : Happening → Prop
  | .handled _ | .accepted _ _ | .resumed _ => actor = .session
  | .posted sender _ _ _ => sender = actor
  | .taken _ | .recorded _ => actor = .pump
  | .enqueued _ | .reported _ _ | .returned _ _ => actor ≠ .session ∧ actor ≠ .pump

/-- What the threads of the engine do: they put items into the queue, and their waits end. -/
def Happening.IsOfEngine : Happening → Prop
  | .enqueued _ | .reported _ _ | .returned _ _ => True
  | _ => False

theorem Happening.IsOfEngine.isBy {x : Happening} {actor : Actor} (h : x.IsOfEngine)
    (hsession : actor ≠ .session) (hpump : actor ≠ .pump) : x.IsBy actor := by
  cases x with
  | enqueued | reported | returned => exact ⟨hsession, hpump⟩
  | _ => exact h.elim

theorem isBy_engine {log : List Happening} (h : ∀ x ∈ log, x.IsOfEngine) :
    ∀ x ∈ log, x.IsBy .engine :=
  fun x hx => (h x hx).isBy Actor.noConfusion Actor.noConfusion

theorem Happening.IsOfEngine.bytes_eq {x : Happening} (h : x.IsOfEngine) : x.bytes = [] := by
  cases x with
  | enqueued | reported | returned => rfl
  | _ => exact h.elim

namespace System

theorem performing_isBy (s : System) (task : Task) :
    ∀ x ∈ s.performing task, x.IsBy .session := by
  intro x hx
  cases task with
  | send | fail | farewell =>
    obtain rfl := List.mem_singleton.mp hx
    exact rfl
  | release request arguments =>
    rw [performing] at hx
    obtain ⟨event, -, rfl⟩ := Option.map_eq_some_iff.mp (Option.mem_toList.mp hx)
    exact rfl
  | resume =>
    rw [performing] at hx
    obtain ⟨event, -, rfl⟩ := Option.map_eq_some_iff.mp (Option.mem_toList.mp hx)
    exact rfl
  | _ => exact absurd hx List.not_mem_nil

theorem hearing_isBy (s : System) : ∀ x ∈ s.hearing, x.IsBy .session := by
  unfold hearing arriving
  intro x hx
  split at hx
  · split at hx
    · obtain rfl := List.mem_singleton.mp hx
      exact rfl
    · split at hx
      · exact absurd hx List.not_mem_nil
      · simp only [List.mem_cons, List.not_mem_nil, or_false] at hx
        rcases hx with rfl | rfl <;> exact rfl
  · exact absurd hx List.not_mem_nil

theorem sessionHappenings_isBy (s : System) : ∀ x ∈ s.sessionHappenings, x.IsBy .session := by
  unfold sessionHappenings
  split
  · exact performing_isBy s _
  · exact hearing_isBy s

theorem pumpHappenings_isBy (s : System) : ∀ x ∈ s.pumpHappenings, x.IsBy .pump := by
  unfold pumpHappenings
  intro x hx
  split at hx
  · obtain rfl := List.mem_singleton.mp hx
    exact rfl
  · obtain rfl := List.mem_singleton.mp hx
    exact rfl
  · exact absurd hx List.not_mem_nil
  · obtain ⟨item, -, rfl⟩ := Option.map_eq_some_iff.mp (Option.mem_toList.mp hx)
    exact rfl

theorem enqueuing_isOfEngine (s : System) (item : Item) :
    ∀ x ∈ s.enqueuing item, x.IsOfEngine := by
  unfold enqueuing
  intro x hx
  split at hx
  · obtain rfl := List.mem_singleton.mp hx
    trivial
  · exact absurd hx List.not_mem_nil

theorem reporting_isOfEngine (s : System) (stop : DebugStop) :
    ∀ x ∈ s.reporting stop, x.IsOfEngine := by
  unfold reporting
  intro x hx
  split at hx
  · obtain rfl := List.mem_singleton.mp hx
    trivial
  · exact absurd hx List.not_mem_nil

theorem returning_isOfEngine (s : System) (c : Channel) : ∀ x ∈ s.returning c, x.IsOfEngine := by
  intro x hx
  obtain ⟨goesOn, -, rfl⟩ := Option.map_eq_some_iff.mp (Option.mem_toList.mp hx)
  trivial

theorem engineHappenings_isOfEngine (s : System) : ∀ x ∈ s.engineHappenings, x.IsOfEngine := by
  unfold engineHappenings
  split
  · split
    · exact fun _ hx => absurd hx List.not_mem_nil
    · exact enqueuing_isOfEngine s _
  · exact enqueuing_isOfEngine s _
  · exact enqueuing_isOfEngine s _
  · exact returning_isOfEngine s _
  · exact enqueuing_isOfEngine s _
  · exact fun _ hx => absurd hx List.not_mem_nil

/-- What happens in a step is done by the thread that makes the step. -/
theorem happenings_isBy (s : System) (actor : Actor) :
    ∀ x ∈ s.happenings (.step actor), x.IsBy actor := by
  intro x hx
  cases actor with
  | session => exact sessionHappenings_isBy s x hx
  | pump => exact pumpHappenings_isBy s x hx
  | engine =>
    exact (engineHappenings_isOfEngine s x hx).isBy Actor.noConfusion Actor.noConfusion
  | aside c => exact (returning_isOfEngine s c x hx).isBy Actor.noConfusion Actor.noConfusion

/-- A stop is reported beside the evaluation in a move of its own. -/
theorem isReport_happenings (s : System) {move : Move} (h : ∀ stop, move ≠ .report stop) :
    ∀ x ∈ s.happenings move, x.isReport = false := by
  have henqueuing : ∀ item, ∀ x ∈ s.enqueuing item, x.isReport = false := by
    intro item x hx
    unfold enqueuing at hx
    split at hx
    · exact List.mem_singleton.mp hx ▸ rfl
    · exact absurd hx List.not_mem_nil
  have hreturning : ∀ c, ∀ x ∈ s.returning c, x.isReport = false := by
    intro c x hx
    obtain ⟨goesOn, -, rfl⟩ := Option.map_eq_some_iff.mp (Option.mem_toList.mp hx)
    rfl
  intro x hx
  match move with
  | .step .session | .step .pump =>
    have hby := s.happenings_isBy _ x hx
    cases x with
    | reported => exact absurd hby (by simp [Happening.IsBy])
    | _ => rfl
  | .step .engine =>
    rw [happenings, engineHappenings] at hx
    split at hx
    · split at hx
      · exact absurd hx List.not_mem_nil
      · exact henqueuing _ x hx
    · exact henqueuing _ x hx
    · exact henqueuing _ x hx
    · exact hreturning _ x hx
    · exact henqueuing _ x hx
    · exact absurd hx List.not_mem_nil
  | .step (.aside c) => exact hreturning c x hx
  | .report stop => exact absurd rfl (h stop)
  | .deliver _ | .hangUp => exact absurd hx List.not_mem_nil

/-- Whose part of the system a move touches. What the client does is only heard of later. -/
inductive Moved (s : System) : Move → System → Prop where
  | session {t} (hstep : s.session? = some t) : Moved s (.step .session) t
  | pump {t} (hstep : s.pump? = some t) : Moved s (.step .pump) t
  | engine {move t} (hkept : KeptByEngine s t) (hmore : ∀ x ∈ s.happenings move, x.IsOfEngine) :
      Moved s move t
  | client {move decoder ended} (hmore : s.happenings move = []) :
      Moved s move { s with session := { s.session with decoder, ended } }

theorem moved {s t : System} {move : Move} (h : s.move? move = some t) : Moved s move t := by
  match move with
  | .step .session => exact .session h
  | .step .pump => exact .pump h
  | .step .engine => exact .engine (keptByEngine h) (engineHappenings_isOfEngine s)
  | .step (.aside c) => exact .engine (keptByAside h) (returning_isOfEngine s c)
  | .report stop => exact .engine (keptByReport h) (reporting_isOfEngine s stop)
  | .deliver _ | .hangUp =>
    obtain rfl := Option.some.inj h
    exact .client rfl

end System

end DebugAdapter.Evaluation
