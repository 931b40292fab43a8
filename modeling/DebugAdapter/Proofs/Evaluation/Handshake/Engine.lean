import DebugAdapter.Proofs.Evaluation.Handshake.Phases

/-! # The engine stops and goes on

The engine begins a phase with the report of a stop and ends it when its wait ends. It makes no step
in between, since its channel is held until the stop is released or given up. -/

namespace DebugAdapter.Evaluation

open Debuggee Protocol Session

variable {s t : System} {phase : Phase}

theorem verdict?_of_held {c : Channel} (hsignals : c ∉ s.signals) (hheld : s.isHeld c = true) :
    s.verdict? c = none := by
  rw [System.verdict?, if_neg hsignals, if_pos hheld]

theorem isHeld_of_queued {report : DebugStop} {c : Channel}
    (h : (report, c) ∈ s.queue.items.filterMap Item.stop?) : s.isHeld c = true := by
  have hqueue : s.queue.items.any (System.itemHolds c) = true := by
    obtain ⟨item, hitem, hstop⟩ := List.mem_filterMap.mp h
    refine List.any_eq_true.mpr ⟨item, hitem, ?_⟩
    cases item with
    | stopped =>
      cases hstop
      exact beq_self_eq_true c
    | _ => exact nomatch hstop
  rw [System.isHeld, hqueue, Bool.true_or, Bool.true_or, Bool.true_or]

theorem PumpPlan.holds {report : DebugStop} {c : Channel} {tasks : List PumpTask}
    (h : PumpPlan (some (report, c)) tasks) : tasks.any (System.taskHolds c) = true := by
  generalize hnoted : some (report, c) = noted at h
  induction h with
  | nil | announce => exact nomatch hnoted
  | plain _ _ ih | list _ ih => rw [List.any_cons, ih hnoted, Bool.or_true]
  | record | retain =>
    cases hnoted
    rw [List.any_cons, System.taskHolds, beq_self_eq_true, Bool.true_or]

/-- What the thread learns that waits fits to how far its stop has got. -/
theorem At.verdict {report : DebugStop} {c : Channel} {stage : Stage} {goesOn : Bool}
    (h : At s (.waiting report c stage)) (hverdict : s.verdict? c = some goesOn) :
    Advance (.waiting report c stage) (.returned c goesOn) (.going (c + 1)) ∧
      Holds s [] none [] ∧ ∀ task ∈ s.session.work, task.IsCalm := by
  have hwaits : c ∉ s.signals → s.isHeld c ≠ true := by
    intro hsignals hheld
    exact nomatch (verdict?_of_held hsignals hheld).symm.trans hverdict
  have hrefused : c ∉ s.signals → goesOn = false := by
    intro hsignals
    rw [System.verdict?, if_neg hsignals, if_neg (hwaits hsignals)] at hverdict
    exact (Option.some.inj hverdict).symm
  have hplaced := h.placed
  have hbusy := h.busy
  cases stage with
  | resumed =>
    rw [System.verdict?, if_pos (h.told report c rfl)] at hverdict
    obtain rfl := Option.some.inj hverdict
    exact ⟨.goOn, hplaced, hbusy⟩
  | reported =>
    have hsignals : c ∉ s.signals := fun hc => Nat.lt_irrefl c (h.signals c hc)
    rcases hplaced with hholds | hholds
    · have hqueued : (report, c) ∈ s.queue.items.filterMap Item.stop? :=
        hholds.queued_eq ▸ List.mem_cons_self
      exact absurd (isHeld_of_queued hqueued) (hwaits hsignals)
    · refine absurd ?_ (hwaits hsignals)
      rw [System.isHeld, hholds.plan.holds, Bool.or_true, Bool.true_or, Bool.true_or]
  | recorded event =>
    have hsignals : c ∉ s.signals := fun hc => Nat.lt_irrefl c (h.signals c hc)
    obtain rfl := hrefused hsignals
    obtain ⟨-, hresume, hholds | hholds⟩ := hplaced
    · refine absurd ?_ (hwaits hsignals)
      rw [System.isHeld, hholds.listed_eq, List.map_singleton, List.any_cons, hresume,
        beq_self_eq_true, Bool.true_or, Bool.or_true, Bool.true_or]
    · exact ⟨.forget, hholds, hbusy⟩
  | accepted request event unsent =>
    have hsignals : c ∉ s.signals := fun hc => Nat.lt_irrefl c (h.signals c hc)
    obtain ⟨hheld, hresume, -⟩ := hbusy
    refine absurd ?_ (hwaits hsignals)
    rw [System.isHeld, hheld, Option.any_some, hresume, beq_self_eq_true, Bool.or_true]
  | failed =>
    have hsignals : c ∉ s.signals := fun hc => Nat.lt_irrefl c (h.signals c hc)
    obtain rfl := hrefused hsignals
    exact ⟨.refuse, hplaced, hbusy⟩

theorem Phase.signalled_le (phase : Phase) : phase.signalled ≤ phase.channels := by
  cases phase with
  | going => exact Nat.le_refl _
  | waiting report c stage => cases stage <;> first | exact Nat.le_refl _ | exact Nat.le_succ _

/-- The engine does something other than to report a stop. -/
theorem At.aside (h : At s phase) (hkept : System.KeptByEngine s t)
    (hwaits : t.engine.waits? = s.engine.waits?) (hchannels : t.channels = s.channels)
    (hqueue : t.queue.items.filterMap Item.stop? = s.queue.items.filterMap Item.stop?) :
    At t phase where
  waits := hwaits.trans h.waits
  channels := hchannels.trans h.channels
  signals := hkept.signals_eq ▸ h.signals
  told := hkept.signals_eq ▸ h.told
  placed := by
    refine h.placed.keep hqueue ?_ (.inl (by rw [hkept.registries_eq]))
    rw [hkept.pump_eq]
    exact fun _ _ => id
  busy := hkept.session_eq ▸ h.busy

theorem Solo.of_engine (h : Solo s) (hkept : System.KeptByEngine s t) (haside : t.aside = s.aside)
    (hreceived : t.queue.received = s.queue.received) (hengine : s.engine ≠ .idle)
    (hsingle : t.engine.IsSingle) : Solo t where
  script := hkept.script_eq ▸ h.script
  engine := hsingle
  aside := haside.trans h.aside
  received := hreceived.trans h.received
  idle hstarted := absurd (h.idle (hkept.session_eq ▸ hstarted)) hengine

theorem Solo.push (h : Solo s) (item : Item) :
    s.queue.push item = (.ok (), { s.queue with items := s.queue.items ++ [item] }) :=
  if_pos h.received

theorem Solo.received_push (h : Solo s) (item : Item) :
    (s.queue.push item).2.received = s.queue.received :=
  congrArg (·.2.received) (h.push item)

theorem Solo.enqueuing (h : Solo s) (item : Item) : s.enqueuing item = [.enqueued item] :=
  if_pos h.received

theorem stops_push (h : Solo s) {item : Item} (hitem : item.stop? = none) :
    (s.queue.push item).2.items.filterMap Item.stop? = s.queue.items.filterMap Item.stop? := by
  rw [h.push, List.filterMap_append, List.filterMap_cons_none hitem]
  exact List.append_nil _

theorem passage_enqueuing (h : Solo s) {item : Item} (hitem : item.stop? = none) :
    Passage phase (s.enqueuing item) phase := by
  rw [h.enqueuing]
  exact .single (.beside hitem fun _ => rfl)

theorem isSingle_items (outcome : Outcome) : ∀ item ∈ outcome.items, item.stop? = none := by
  cases outcome with
  | success | notCreated =>
    exact List.forall_mem_cons.mpr ⟨rfl, List.forall_mem_singleton.mpr rfl⟩
  | failure e | notCreatedBy _ e => cases e <;> simp [Outcome.items, EngineError.exited, Item.stop?]

/-- The engine reports a stop, which is the only one. -/
theorem At.report (h : At s phase) (hsolo : Solo s) {report : DebugStop}
    {resumed refused : Script} (hengine : s.engine = .running (.stop report resumed refused)) :
    Passage phase [.enqueued (.stopped report s.channels)] (.waiting report s.channels .reported) ∧
      At { s.report report with engine := .waiting s.channels resumed refused }
        (.waiting report s.channels .reported) := by
  have hwaits := h.waits
  rw [hengine] at hwaits
  cases phase with
  | waiting => exact nomatch hwaits
  | going n =>
    obtain rfl : s.channels = n := h.channels
    obtain ⟨hqueued, hplan, hlisted⟩ : Holds s [] none [] := h.placed
    refine ⟨.single .report, rfl, rfl, h.signals, fun _ _ heq => (nomatch heq), .inl ⟨?_, hplan,
      hlisted⟩, h.busy⟩
    rw [System.report, hsolo.push]
    dsimp only
    rw [List.filterMap_append, hqueued]
    rfl

/-- The wait of the engine ends. -/
theorem At.returns {c : Channel} {resumed refused : Script} {goesOn : Bool} (h : At s phase)
    (hengine : s.engine = .waiting c resumed refused) (hverdict : s.verdict? c = some goesOn) :
    Passage phase [.returned c goesOn] (.going (c + 1)) ∧
      At { s.answer c goesOn with engine := .running (if goesOn then resumed else refused) }
        (.going (c + 1)) := by
  have hwaits := h.waits
  rw [hengine] at hwaits
  cases phase with
  | going => exact nomatch hwaits
  | waiting report d stage =>
    obtain rfl : c = d := Option.some.inj hwaits
    obtain ⟨hadvance, ⟨hqueued, hplan, hlisted⟩, hcalm⟩ := h.verdict hverdict
    refine ⟨.single hadvance, rfl, h.channels, fun d hd => ?_, fun _ _ heq => (nomatch heq),
      ⟨hqueued, hplan, hlisted⟩, hcalm⟩
    exact Nat.lt_of_lt_of_le (h.signals d hd) (Phase.signalled_le _)

theorem Solo.engineStep {more : List Happening} (h : Solo s) (hstep : System.EngineStep s more t) :
    Solo t := by
  have hkept := hstep.kept
  have hidle := hstep.ne_idle
  have hsingle := h.engine
  cases hstep with
  | finishes => exact h.of_engine hkept rfl rfl hidle (isSingle_items _)
  | writesNothing hengine | seesEnd hengine =>
    rw [hengine] at hsingle
    exact h.of_engine hkept rfl rfl hidle hsingle
  | writes hengine | stops hengine =>
    rw [hengine] at hsingle
    exact h.of_engine hkept rfl (h.received_push _) hidle hsingle
  | stopsAside hengine =>
    rw [hengine] at hsingle
    exact hsingle.elim
  | @returns c resumed refused goesOn hengine =>
    rw [hengine] at hsingle
    refine h.of_engine hkept rfl rfl hidle ?_
    cases goesOn with
    | true => exact hsingle.1
    | false => exact hsingle.2
  | offers hengine =>
    rw [hengine] at hsingle
    exact h.of_engine hkept rfl (h.received_push _) hidle (List.forall_mem_cons.mp hsingle).2
  | ends => exact h.of_engine hkept rfl rfl hidle trivial

theorem At.engineStep {more : List Happening} (h : At s phase) (hsolo : Solo s)
    (hstep : System.EngineStep s more t) : ∃ next, Passage phase more next ∧ At t next := by
  have hkept := hstep.kept
  have hsingle := hsolo.engine
  cases hstep with
  | finishes hengine | writesNothing hengine | seesEnd hengine | ends hengine =>
    exact ⟨phase, .nil, h.aside hkept (by rw [hengine]; rfl) rfl rfl⟩
  | writes hengine =>
    exact ⟨phase, passage_enqueuing hsolo rfl,
      h.aside hkept (by rw [hengine]; rfl) rfl (stops_push hsolo rfl)⟩
  | stops hengine =>
    obtain ⟨hpassage, hat⟩ := h.report hsolo hengine
    rw [← hsolo.enqueuing] at hpassage
    exact ⟨_, hpassage, hat⟩
  | stopsAside hengine =>
    rw [hengine] at hsingle
    exact hsingle.elim
  | returns hengine hverdict => exact ⟨_, h.returns hengine hverdict⟩
  | offers hengine =>
    rw [hengine] at hsingle
    have hitem := (List.forall_mem_cons.mp hsingle).1
    exact ⟨phase, passage_enqueuing hsolo hitem,
      h.aside hkept (by rw [hengine]; rfl) rfl (stops_push hsolo hitem)⟩

theorem At.engine (h : At s phase) (hsolo : Solo s) (hstep : s.engine? = some t) :
    ∃ next, Passage phase s.engineHappenings next ∧ At t next ∧ Solo t := by
  have hstep := System.engineStep hstep
  obtain ⟨next, hpassage, hat⟩ := h.engineStep hsolo hstep
  exact ⟨next, hpassage, hat, hsolo.engineStep hstep⟩

end DebugAdapter.Evaluation
