import DebugAdapter.Proofs.Evaluation.Handshake.Phases

/-! # The pump takes a stop over

The pump takes a stop out of the queue and puts it into the table. Everything else that it does
hands nothing over. -/

namespace DebugAdapter.Evaluation

open Debuggee Protocol Session

variable {s t : System} {phase : Phase}

theorem PumpPlan.perform {noted : Option (DebugStop × Channel)} {task : PumpTask}
    {rest : List PumpTask} (h : PumpPlan noted (task :: rest))
    (htask : ∀ event, task ≠ .retain event)
    (hempty : noted = none ∨ s.registries.events.entries = []) :
    PumpPlan noted (s.pumpPerform rest task).pump := by
  cases h with
  | plain hplain hrest =>
    cases task with
    | send | cancel | purgeEvents | purgeFrames | purgeVariables => exact hrest
    | _ => exact hplain.elim
  | announce hrest =>
    rw [System.pumpPerform]
    dsimp only
    split
    · exact .plain trivial (.plain trivial (.plain trivial hrest))
    · exact .plain trivial hrest
  | list hrest =>
    rcases hempty with hnone | hempty
    · cases hnone
    · rw [System.pumpPerform, ThreadTable.threads, hempty]
      exact hrest
  | @record report c ids scopes frames rest hrest =>
    cases frames with
    | nil => exact .retain hrest
    | cons frame frames =>
      rw [System.pumpPerform]
      dsimp only
      split <;> exact .record hrest
  | retain => exact absurd rfl (htask _)

theorem events_pumpPerform (s : System) (rest : List PumpTask) {task : PumpTask}
    (htask : ∀ event, task ≠ .retain event) :
    (s.pumpPerform rest task).registries.events = s.registries.events ∨
      (s.pumpPerform rest task).registries.events = {} := by
  cases task with
  | purgeEvents => exact .inr rfl
  | retain event => exact absurd rfl (htask event)
  | record report resume ids scopes frames =>
    cases frames with
    | nil => exact .inl rfl
    | cons frame frames =>
      rw [System.pumpPerform]
      dsimp only
      split <;> exact .inl rfl
  | _ => exact .inl rfl

theorem pumpHappenings_isBeside (s : System)
    (hretain : ∀ event rest, s.pump ≠ .retain event :: rest) :
    ∀ x ∈ s.pumpHappenings, x.IsBeside := by
  intro x hx
  unfold System.pumpHappenings at hx
  split at hx
  · obtain rfl := List.mem_singleton.mp hx
    trivial
  · rename_i hpump
    exact absurd hpump (hretain _ _)
  · exact absurd hx List.not_mem_nil
  · obtain ⟨item, -, rfl⟩ := Option.map_eq_some_iff.mp (Option.mem_toList.mp hx)
    trivial

theorem sessionPost_of_isBy {x : Happening} {actor : Actor} (h : x.IsBy actor)
    (hactor : actor ≠ .session) : x.sessionPost? = none := by
  cases x with
  | posted sender =>
    obtain rfl : sender = actor := h
    cases sender with
    | session => exact absurd rfl hactor
    | _ => rfl
  | _ => rfl

theorem PumpPlan.of_retain {noted : Option (DebugStop × Channel)} {event : StopEvent}
    {rest : List PumpTask} (h : PumpPlan noted (.retain event :: rest)) :
    PumpPlan none rest ∧
      ∃ report ids c, noted = some (report, c) ∧ event = ⟨report.thread, ids, c⟩ := by
  cases h with
  | plain hplain => exact hplain.elim
  | @retain report c ids _ hrest => exact ⟨hrest, report, ids, c, rfl, rfl⟩

/-- Only the stop at hand is put into the table. -/
theorem Placed.of_retain (h : Placed s phase) {event : StopEvent} {rest : List PumpTask}
    (hpump : s.pump = .retain event :: rest) :
    ∃ report ids c, phase = .waiting report c .reported ∧ event = ⟨report.thread, ids, c⟩ ∧
      PumpPlan none rest ∧ Holds s [] (some (report, c)) [] := by
  have hnone : ∀ {queued listed}, ¬Holds s queued none listed := by
    intro queued listed hholds
    obtain ⟨-, _, _, _, hnone, -⟩ := (hpump ▸ hholds.plan).of_retain
    exact nomatch hnone
  cases phase with
  | going => exact (hnone h).elim
  | waiting report c stage =>
    cases stage with
    | reported =>
      have hholds := h.resolve_left hnone
      obtain ⟨hrest, _, ids, _, hnoted, hevent⟩ := (hpump ▸ hholds.plan).of_retain
      cases hnoted
      exact ⟨report, ids, c, rfl, hevent, hrest, hholds⟩
    | recorded event => exact (h.2.2.elim hnone hnone).elim
    | accepted | failed | resumed => exact (hnone h).elim

/-- The pump takes an item that is no stop. -/
theorem Placed.pop (h : Placed s phase) {item : Item} {items : List Item} (hpump : s.pump = [])
    (hitems : s.queue.items = item :: items) (hitem : item.stop? = none) :
    Placed { s with queue := { s.queue with items }, pump := planItem item } phase := by
  refine h.keep ?_ ?_ (.inl rfl)
  · rw [hitems, List.filterMap_cons_none hitem]
  · intro noted _ hplan
    rw [hpump] at hplan
    cases hplan
    exact hitem ▸ pumpPlan_planItem item

/-- The pump takes a stop, which is the one at hand. -/
theorem Placed.popStop (h : Placed s phase) {item : Item} {items : List Item} {report : DebugStop}
    {c : Channel} (hitems : s.queue.items = item :: items)
    (hitem : item.stop? = some (report, c)) :
    Placed { s with queue := { s.queue with items }, pump := planItem item } phase := by
  have hempty : ∀ {noted listed}, ¬Holds s [] noted listed := by
    intro noted listed hholds
    have hqueued := hholds.queued_eq
    rw [hitems, List.filterMap_cons_some hitem] at hqueued
    exact nomatch hqueued
  cases phase with
  | going => exact (hempty h).elim
  | waiting report' c' stage =>
    cases stage with
    | reported =>
      have hholds := h.resolve_right hempty
      have hqueued := hholds.queued_eq
      rw [hitems, List.filterMap_cons_some hitem] at hqueued
      obtain ⟨heq, hitems'⟩ := List.cons.inj hqueued
      cases heq
      exact .inr ⟨hitems', hitem ▸ pumpPlan_planItem item, hholds.listed_eq⟩
    | recorded event => exact (h.2.2.elim hempty hempty).elim
    | accepted | failed | resumed => exact (hempty h).elim

/-- The pump passes a stop from the queue into the table, and nothing else. -/
theorem placed_pump (h : Placed s phase) (hstep : s.pump? = some t) :
    ∃ next, Passage phase s.pumpHappenings next ∧ Placed t next ∧
      (next = phase ∨ ∃ report c event, phase = .waiting report c .reported ∧
        next = .waiting report c (.recorded event)) := by
  have hstay : (∀ event rest, s.pump ≠ .retain event :: rest) →
      Passage phase s.pumpHappenings phase := fun hretain =>
    .of_beside (pumpHappenings_isBeside s hretain) fun _ x hx =>
      sessionPost_of_isBy (System.pumpHappenings_isBy s x hx) Actor.noConfusion
  cases System.pumpStep hstep with
  | @performs task rest hpump =>
    by_cases hretain : ∃ event, task = .retain event
    · obtain ⟨event, rfl⟩ := hretain
      obtain ⟨report, ids, c, rfl, rfl, hrest, hholds⟩ := h.of_retain hpump
      refine ⟨.waiting report c (.recorded ⟨report.thread, ids, c⟩), ?_,
        ⟨rfl, rfl, .inl ⟨hholds.queued_eq, hrest, ?_⟩⟩, .inr ⟨report, c, _, rfl, rfl⟩⟩
      · rw [System.pumpHappenings, hpump]
        exact .single (.record rfl rfl)
      · rw [System.pumpPerform, ThreadTable.retain, hholds.listed_eq]
        rfl
    · have htask : ∀ event, task ≠ .retain event := fun event heq => hretain ⟨event, heq⟩
      refine ⟨phase, hstay ?_, h.keep ?_ ?_ (events_pumpPerform s rest htask), .inl rfl⟩
      · intro event _ heq
        exact htask event (List.cons.inj (hpump.symm.trans heq)).1
      · rw [queue_pumpPerform]
      · intro noted hempty hplan
        exact (hpump ▸ hplan).perform htask hempty
  | @takes item items hpump hitems =>
    refine ⟨phase, hstay fun _ _ heq => (by cases hpump.symm.trans heq), ?_, .inl rfl⟩
    cases hitem : item.stop? with
    | none => exact h.pop hpump hitems hitem
    | some stop => exact h.popStop hitems hitem

theorem At.pump (h : At s phase) (hstep : s.pump? = some t) :
    ∃ next, Passage phase s.pumpHappenings next ∧ At t next := by
  have hkept := System.keptByPump hstep
  obtain ⟨next, hpassage, hplaced, hnext⟩ := placed_pump h.placed hstep
  refine ⟨next, hpassage, ?_⟩
  rcases hnext with rfl | ⟨report, c, event, rfl, rfl⟩
  · exact ⟨hkept.engine_eq ▸ h.waits, hkept.channels_eq ▸ h.channels,
      hkept.signals_eq ▸ h.signals, hkept.signals_eq ▸ h.told, hplaced, hkept.session_eq ▸ h.busy⟩
  · exact ⟨hkept.engine_eq ▸ h.waits, hkept.channels_eq ▸ h.channels,
      hkept.signals_eq ▸ h.signals, fun _ _ heq => (nomatch heq), hplaced,
      hkept.session_eq ▸ h.busy⟩

end DebugAdapter.Evaluation
