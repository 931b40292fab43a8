import DebugAdapter.Proofs.Evaluation.Agenda

/-! # Who holds a channel

A channel is held by the item in the queue, the work of the pump, the table or the session. Nobody
gets hold of one that nobody held before, but for the engine when it reports a stop. -/

namespace DebugAdapter.Evaluation

open Debuggee Protocol Session

variable {s t : System}

theorem isHeld_iff {c : Channel} : s.isHeld c = true ↔
    (∃ item ∈ s.queue.items, System.itemHolds c item = true) ∨
      (∃ task ∈ s.pump, System.taskHolds c task = true) ∨
      (∃ entry ∈ s.registries.events.entries, entry.2.resume = c) ∨
      ∃ event, s.session.held = some event ∧ event.resume = c := by
  simp only [System.isHeld, Bool.or_eq_true, List.any_eq_true, Option.any_eq_true, beq_iff_eq,
    or_assoc]

/-- The session holds a stop only if it was in the table. -/
theorem held_perform (s : System) (rest : List Task) (task : Task) {event : StopEvent}
    (h : (s.perform rest task).session.held = some event) :
    s.session.held = some event ∨ ∃ entry ∈ s.registries.events.entries, entry.2 = event := by
  have hsent : ∀ {outcome}, (s.sent rest outcome).session.held = some event →
      s.session.held = some event := by
    rintro ⟨_ | _, o⟩ h
    · cases h
    · exact h
  cases task with
  | send | fail => exact .inl (hsent h)
  | start =>
    rcases perform_start s rest with ⟨hnext, -⟩ | ⟨-, -, hnext⟩ <;> rw [hnext] at h <;>
      exact .inl h
  | cancel | findScopes | findVariables | purgeEvents | purgeFrames | purgeVariables | resume =>
    exact .inl h
  | findStop request arguments =>
    rw [System.perform] at h
    cases hget : s.registries.events.get? arguments.threadId with
    | none =>
      rw [hget] at h
      exact .inl h
    | some found =>
      rw [hget] at h
      obtain rfl := Option.some.inj h
      exact .inr ⟨_, ThreadTable.mem_of_get? hget, rfl⟩
  | findFrames request arguments ids found =>
    cases ids <;> exact .inl h
  | release request arguments =>
    rw [System.perform, ThreadTable.release] at h
    cases hget : s.registries.events.get? arguments.threadId with
    | none =>
      rw [hget] at h
      exact .inl h
    | some found =>
      rw [hget] at h
      obtain rfl := Option.some.inj h
      exact .inr ⟨_, ThreadTable.mem_of_get? hget, rfl⟩
  | decide wasStarted flow =>
    rw [System.perform] at h
    dsimp only at h
    split at h <;> cases h
  | farewell =>
    obtain ⟨problems, hfarewell⟩ := s.farewell_eq rest
    rw [hfarewell] at h
    exact .inl h
  | close =>
    obtain ⟨decoder, problems, hclose⟩ := s.close_eq
    rw [System.perform, hclose] at h
    exact .inl h

theorem held_heard {more : List Happening} {event : StopEvent} (hheard : System.Heard s more t)
    (h : t.session.held = some event) : s.session.held = some event := by
  cases hheard with
  | message | opened => exact h
  | unanswered | ended => exact nomatch h

theorem isHeld_session {c : Channel} (hstep : s.session? = some t) (h : t.isHeld c = true) :
    s.isHeld c = true := by
  have hkept := System.keptBySession hstep
  have hevents := events_session hstep
  have hheld : ∀ event, t.session.held = some event →
      s.session.held = some event ∨ ∃ entry ∈ s.registries.events.entries, entry.2 = event := by
    intro event hevent
    have hstep := System.sessionStep hstep
    generalize s.sessionHappenings = more at hstep
    cases hstep with
    | performs => exact held_perform _ _ _ hevent
    | hears _ _ hreceive => exact .inl (held_heard (System.heard hreceive) hevent)
  rw [isHeld_iff] at h ⊢
  rcases h with hqueue | hpump | ⟨entry, hentry, hc⟩ | ⟨event, hevent, hc⟩
  · exact .inl (hkept.queue_eq ▸ hqueue)
  · exact .inr (.inl (hkept.pump_eq ▸ hpump))
  · exact .inr (.inr (.inl ⟨entry, hevents hentry, hc⟩))
  · rcases hheld event hevent with hbefore | ⟨entry, hentry, rfl⟩
    · exact .inr (.inr (.inr ⟨event, hbefore, hc⟩))
    · exact .inr (.inr (.inl ⟨entry, hentry, hc⟩))

theorem taskHolds_planItem {c : Channel} {item : Item} {task : PumpTask} (h : task ∈ planItem item)
    (hholds : System.taskHolds c task = true) : System.itemHolds c item = true := by
  cases item with
  | stopped report resume =>
    simp only [planItem, List.mem_cons, List.not_mem_nil, or_false] at h
    rcases h with rfl | rfl | rfl | rfl | rfl
    case inr.inr.inr.inl => exact hholds
    all_goals cases hholds
  | output | exited =>
    obtain rfl := List.mem_singleton.mp h
    cases hholds
  | terminated =>
    simp only [planItem, List.mem_cons, List.not_mem_nil, or_false] at h
    rcases h with rfl | rfl <;> cases hholds

/-- The pump passes a channel on from a task to the tasks that follow from it, or takes it from the
table. -/
theorem holds_of_mem_pump {c : Channel} {task next : PumpTask} {rest : List PumpTask}
    (hnext : next ∈ (s.pumpPerform rest task).pump) (hholds : System.taskHolds c next = true) :
    (∃ other ∈ task :: rest, System.taskHolds c other = true) ∨
      ∃ entry ∈ s.registries.events.entries, entry.2.resume = c := by
  have hrest : next ∈ rest → ∃ other ∈ task :: rest, System.taskHolds c other = true :=
    fun hmem => ⟨next, List.mem_cons_of_mem _ hmem, hholds⟩
  cases task with
  | send | cancel | purgeEvents | purgeFrames | purgeVariables | retain => exact .inl (hrest hnext)
  | listStopped =>
    rcases List.mem_append.mp hnext with hmem | hmem
    · obtain ⟨thread, -, rfl⟩ := List.mem_map.mp hmem
      exact nomatch hholds
    · exact .inl (hrest hmem)
  | findStop thread =>
    rw [System.pumpPerform] at hnext
    cases hget : s.registries.events.get? thread with
    | none =>
      rw [hget] at hnext
      exact .inl (hrest hnext)
    | some event =>
      rw [hget] at hnext
      rcases List.mem_cons.mp hnext with rfl | hmem
      · exact .inr ⟨_, ThreadTable.mem_of_get? hget, beq_iff_eq.mp hholds⟩
      · exact .inl (hrest hmem)
  | record report resume ids scopes frames =>
    have hcons : ∀ {other}, next ∈ other :: rest →
        System.taskHolds c other = System.taskHolds c (.record report resume ids scopes frames) →
        ∃ other ∈ .record report resume ids scopes frames :: rest,
          System.taskHolds c other = true := by
      intro other hmem hsame
      rcases List.mem_cons.mp hmem with rfl | hmem
      · exact ⟨_, List.mem_cons_self, hsame.symm.trans hholds⟩
      · exact hrest hmem
    cases frames with
    | nil => exact .inl (hcons hnext rfl)
    | cons frame frames =>
      rw [System.pumpPerform] at hnext
      dsimp only at hnext
      split at hnext <;> exact .inl (hcons hnext rfl)
  | announce report =>
    rw [System.pumpPerform] at hnext
    dsimp only at hnext
    refine .inl (hrest ?_)
    split at hnext
    · simp only [List.mem_cons] at hnext
      rcases hnext with rfl | rfl | rfl | hmem
      case inr.inr.inr => exact hmem
      all_goals cases hholds
    · rcases List.mem_cons.mp hnext with rfl | hmem
      · cases hholds
      · exact hmem

/-- A stop gets into the table only with the channel of the task that puts it there. -/
theorem holds_of_mem_events {task : PumpTask} {rest : List PumpTask} {entry : Int64 × StopEvent}
    (hentry : entry ∈ (s.pumpPerform rest task).registries.events.entries) :
    System.taskHolds entry.2.resume task = true ∨ entry ∈ s.registries.events.entries := by
  cases task with
  | send | cancel | purgeFrames | purgeVariables | listStopped | findStop | announce =>
    exact .inr hentry
  | purgeEvents => exact absurd hentry List.not_mem_nil
  | retain event =>
    rcases ThreadTable.mem_retain hentry with rfl | hmem
    · exact .inl (beq_self_eq_true _)
    · exact .inr hmem
  | record report resume ids scopes frames =>
    cases frames with
    | nil => exact .inr hentry
    | cons frame frames =>
      rw [System.pumpPerform] at hentry
      dsimp only at hentry
      split at hentry <;> exact .inr hentry

theorem isHeld_pump {c : Channel} (hstep : s.pump? = some t) (h : t.isHeld c = true) :
    s.isHeld c = true := by
  have hsession := (System.keptByPump hstep).session_eq
  rw [isHeld_iff] at h ⊢
  rw [hsession] at h
  cases System.pumpStep hstep with
  | @performs task rest hpump =>
    rw [hpump]
    rw [queue_pumpPerform] at h
    rcases h with hqueue | ⟨next, hnext, hholds⟩ | ⟨entry, hentry, rfl⟩ | hheld
    · exact .inl hqueue
    · exact .inr (or_assoc.mp (.inl (holds_of_mem_pump hnext hholds)))
    · rcases holds_of_mem_events hentry with htask | hmem
      · exact .inr (.inl ⟨task, List.mem_cons_self, htask⟩)
      · exact .inr (.inr (.inl ⟨entry, hmem, rfl⟩))
    · exact .inr (.inr (.inr hheld))
  | @takes item items _ hitems =>
    rw [hitems]
    rcases h with ⟨other, hother, hholds⟩ | ⟨task, htask, hholds⟩ | hrest
    · exact .inl ⟨other, List.mem_cons_of_mem _ hother, hholds⟩
    · exact .inl ⟨item, List.mem_cons_self, taskHolds_planItem htask hholds⟩
    · exact .inr (.inr hrest)

/-- A channel gets known only when the engine reports a stop, and then it is a new one. -/
structure Opens (s t : System) : Prop where
  held : ∀ c, t.isHeld c = true → s.isHeld c = true ∨ c = s.channels ∧ t.channels = s.channels + 1
  waits : ∀ c, t.engine.waits? = some c → s.engine.waits? = some c ∨
    c = s.channels ∧ t.channels = s.channels + 1
  aside : ∀ c ∈ t.aside, c ∈ s.aside ∨ c = s.channels ∧ t.channels = s.channels + 1
  channels : s.channels ≤ t.channels

theorem items_push (item : Item) {c : Channel}
    (h : ∃ other ∈ (s.queue.push item).2.items, System.itemHolds c other = true) :
    (∃ other ∈ s.queue.items, System.itemHolds c other = true) ∨
      System.itemHolds c item = true := by
  obtain ⟨other, hother, hholds⟩ := h
  unfold Queue.push at hother
  split at hother
  · rcases List.mem_append.mp hother with hother | hother
    · exact .inl ⟨other, hother, hholds⟩
    · obtain rfl := List.mem_singleton.mp hother
      exact .inr hholds
  · exact .inl ⟨other, hother, hholds⟩

/-- The channels that the items of the queue hold. -/
def Offers (s : System) (c : Channel) : Prop :=
  ∃ item ∈ s.queue.items, System.itemHolds c item = true

theorem isHeld_of_keptByEngine {c : Channel} (hkept : System.KeptByEngine s t) (h : t.isHeld c = true)
    {P : Prop} (hitems : Offers t c → Offers s c ∨ P) : s.isHeld c = true ∨ P := by
  rw [isHeld_iff] at h ⊢
  rw [hkept.pump_eq, hkept.registries_eq, hkept.session_eq] at h
  rcases h with hqueue | hrest
  · exact (hitems hqueue).imp_left .inl
  · exact .inl (.inr hrest)

theorem Opens.of_still (hkept : System.KeptByEngine s t) (hitems : ∀ c, Offers t c → Offers s c)
    (hwaits : t.engine.waits? = none) (haside : t.aside = s.aside)
    (hchannels : t.channels = s.channels) : Opens s t where
  held c h := isHeld_of_keptByEngine hkept h fun hqueue => .inl (hitems c hqueue)
  waits _ h := nomatch hwaits.symm.trans h
  aside _ h := .inl (haside ▸ h)
  channels := Nat.le_of_eq hchannels.symm

theorem offers_push {item : Item} (hitem : item.stop? = none)
    (hqueue : t.queue = (s.queue.push item).2) (c : Channel) (h : Offers t c) : Offers s c := by
  rw [Offers, hqueue] at h
  refine (items_push item h).resolve_right fun hholds => ?_
  cases item with
  | stopped => exact nomatch hitem
  | _ => exact nomatch hholds

/-- A stop is reported under a new channel. -/
theorem items_report {report : DebugStop} {c : Channel}
    (h : ∃ item ∈ (s.report report).queue.items, System.itemHolds c item = true) :
    (∃ item ∈ s.queue.items, System.itemHolds c item = true) ∨
      c = s.channels ∧ (s.report report).channels = s.channels + 1 :=
  (items_push _ h).imp_right fun hholds => ⟨(beq_iff_eq.mp hholds).symm, rfl⟩

theorem opens_engine (hstep : s.engine? = some t)
    (hlast : ∀ items, s.engine = .finishing items → ∀ item ∈ items, item.stop? = none) :
    Opens s t := by
  have hstep := System.engineStep hstep
  generalize s.engineHappenings = more at hstep
  have hkept := hstep.kept
  cases hstep with
  | finishes | writesNothing | seesEnd | returns | ends =>
    exact .of_still hkept (fun _ => id) rfl rfl rfl
  | writes => exact .of_still hkept (offers_push rfl rfl) rfl rfl rfl
  | offers hengine =>
    exact .of_still hkept (offers_push (hlast _ hengine _ List.mem_cons_self) rfl) rfl rfl rfl
  | stops =>
    exact ⟨fun _ h => isHeld_of_keptByEngine hkept h items_report,
      fun _ h => .inr ⟨(Option.some.inj h).symm, rfl⟩, fun _ => .inl, Nat.le_succ _⟩
  | stopsAside =>
    refine ⟨fun _ h => isHeld_of_keptByEngine hkept h items_report, fun _ h => (nomatch h),
      fun _ h => ?_, Nat.le_succ _⟩
    exact (List.mem_append.mp h).imp_right fun hmem => ⟨List.mem_singleton.mp hmem, rfl⟩

theorem opens_move (hlast : ∀ items, s.engine = .finishing items → ∀ item ∈ items, item.stop? = none)
    {move : Move} (hmove : s.move? move = some t) : Opens s t := by
  match move with
  | .step .session =>
    have hkept := System.keptBySession hmove
    refine ⟨fun _ h => .inl (isHeld_session hmove h), fun _ h => .inl ?_,
      fun _ h => .inl (hkept.aside_eq ▸ h), Nat.le_of_eq hkept.channels_eq.symm⟩
    cases commences_session hmove with
    | same hengine => exact hengine ▸ h
    | starts _ _ _ hengine => exact nomatch (hengine ▸ h)
  | .step .pump =>
    have hkept := System.keptByPump hmove
    exact ⟨fun _ h => .inl (isHeld_pump hmove h), fun _ h => .inl (hkept.engine_eq ▸ h),
      fun _ h => .inl (hkept.aside_eq ▸ h), Nat.le_of_eq hkept.channels_eq.symm⟩
  | .step .engine => exact opens_engine hmove hlast
  | .step (.aside d) =>
    obtain ⟨-, goesOn, -, rfl⟩ := System.aside_eq hmove
    exact ⟨fun _ => .inl, fun _ => .inl, fun _ h => .inl (List.mem_of_mem_erase h), Nat.le_refl _⟩
  | .report stop =>
    have hkept := System.keptByReport hmove
    obtain ⟨-, rfl⟩ := System.reportAside_eq hmove
    refine ⟨fun _ h => isHeld_of_keptByEngine hkept h items_report, fun _ => .inl, fun _ h => ?_,
      Nat.le_succ _⟩
    exact (List.mem_append.mp h).imp_right fun hmem => ⟨List.mem_singleton.mp hmem, rfl⟩
  | .deliver _ | .hangUp =>
    obtain rfl := Option.some.inj hmove
    exact ⟨fun _ => .inl, fun _ => .inl, fun _ => .inl, Nat.le_refl _⟩

end DebugAdapter.Evaluation
