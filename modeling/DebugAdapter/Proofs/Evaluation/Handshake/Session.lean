import DebugAdapter.Proofs.Evaluation.Handshake.Phases

/-! # The session takes a stop over

The session takes a stop out of the table when a request to go on asks for it, tells the client,
and resumes the thread. Every other task of it is calm. -/

namespace DebugAdapter.Evaluation

open Debuggee Protocol Session

variable {s t : System} {phase : Phase}

theorem calm_planRequest (r : Request) : ∀ task ∈ (planRequest r).1, task.IsCalm := by
  unfold planRequest
  dsimp only
  split
  case h_9 hcommand harguments =>
    exact List.forall_mem_singleton.mpr ⟨hcommand, harguments⟩
  case h_1 => exact List.forall_mem_cons.mpr ⟨trivial, List.forall_mem_singleton.mpr trivial⟩
  case h_2 => exact List.forall_mem_cons.mpr ⟨trivial, List.forall_mem_singleton.mpr trivial⟩
  case h_4 => exact List.forall_mem_cons.mpr ⟨trivial, List.forall_mem_singleton.mpr trivial⟩
  all_goals exact List.forall_mem_singleton.mpr trivial

theorem calm_planMessage (started : Bool) (m : Message) :
    ∀ task ∈ planMessage started m, task.IsCalm := by
  cases m with
  | request r =>
    refine List.forall_mem_append.mpr ⟨calm_planRequest r, List.forall_mem_singleton.mpr trivial⟩
  | response | event => exact List.forall_mem_singleton.mpr trivial

theorem calm_endWith (s : System) (result : Except Error Unit) :
    ∀ task ∈ (s.endWith result).session.work, task.IsCalm := by
  rcases s.endWith_work result with hwork | hwork
  · rw [hwork]
    simp [farewellTasks, Task.IsCalm]
  · rw [hwork]
    exact List.forall_mem_singleton.mpr trivial

/-- The session leaves the engine alone, apart from starting it once. -/
def Starts (s t : System) : Prop :=
  (t.engine = s.engine ∧ t.session.started = s.session.started) ∨
    (s.session.started = false ∧ t.engine = .running s.script ∧ t.session.started = true)

/-- A step of the session that neither accepts a request to go on nor tells a thread to. -/
structure Undisturbed (s t : System) : Prop where
  calm : ∀ task ∈ t.session.work, task.IsCalm
  events : t.registries.events = s.registries.events ∨ t.registries.events = {}
  signals : t.signals = s.signals
  engine : Starts s t

theorem Undisturbed.of_sent {rest : List Task} (outcome : Except Error Unit × Outbox)
    (hrest : ∀ task ∈ rest, task.IsCalm) : Undisturbed s (s.sent rest outcome) := by
  obtain ⟨_ | _, _⟩ := outcome
  · exact ⟨calm_endWith _ _, .inl rfl, rfl, .inl ⟨rfl, rfl⟩⟩
  · exact ⟨hrest, .inl rfl, rfl, .inl ⟨rfl, rfl⟩⟩

theorem Undisturbed.of_heard {more : List Happening} (hwork : s.session.work = [])
    (h : System.Heard s more t) : Undisturbed s t := by
  cases h with
  | message => exact ⟨calm_planMessage _ _, .inl rfl, rfl, .inl ⟨rfl, rfl⟩⟩
  | opened =>
    refine ⟨?_, .inl rfl, rfl, .inl ⟨rfl, rfl⟩⟩
    dsimp only
    rw [hwork]
    exact fun _ h => absurd h List.not_mem_nil
  | unanswered | ended => exact ⟨calm_endWith _ _, .inl rfl, rfl, .inl ⟨rfl, rfl⟩⟩

theorem Undisturbed.of_perform {task : Task} {rest : List Task} (htask : task.IsCalm)
    (hrelease : ∀ request arguments, task = .release request arguments →
      s.registries.events.get? arguments.threadId = none)
    (hrest : ∀ task ∈ rest, task.IsCalm) : Undisturbed s (s.perform rest task) := by
  have hcons : ∀ {other : Task}, other.IsCalm → ∀ task ∈ other :: rest, task.IsCalm :=
    fun hother => List.forall_mem_cons.mpr ⟨hother, hrest⟩
  cases task with
  | send | fail => exact .of_sent _ hrest
  | start =>
    rw [System.perform]
    dsimp only
    split
    · exact ⟨hrest, .inl rfl, rfl, .inl ⟨rfl, rfl⟩⟩
    · rename_i hstart
      have hstarted : s.session.started = false := by
        cases hstarted : s.session.started with
        | false => rfl
        | true => exact absurd (by rw [System.withWork, hstarted, Bool.true_or]) hstart
      exact ⟨hrest, .inl rfl, rfl, .inr ⟨hstarted, rfl, rfl⟩⟩
  | cancel => exact ⟨hrest, .inl rfl, rfl, .inl ⟨rfl, rfl⟩⟩
  | findStop | findScopes | findVariables =>
    rw [System.perform]
    split <;> exact ⟨hcons trivial, .inl rfl, rfl, .inl ⟨rfl, rfl⟩⟩
  | findFrames =>
    rw [System.perform.eq_def]
    dsimp only
    split <;> exact ⟨hcons trivial, .inl rfl, rfl, .inl ⟨rfl, rfl⟩⟩
  | release request arguments =>
    have hnone := hrelease request arguments rfl
    rw [System.perform]
    split
    · exact ⟨hcons trivial, .inl rfl, rfl, .inl ⟨rfl, rfl⟩⟩
    · rename_i heq
      cases hnone.symm.trans (congrArg Prod.fst heq)
  | purgeEvents => exact ⟨hrest, .inr rfl, rfl, .inl ⟨rfl, rfl⟩⟩
  | purgeFrames | purgeVariables => exact ⟨hrest, .inl rfl, rfl, .inl ⟨rfl, rfl⟩⟩
  | resume => exact htask.elim
  | decide wasStarted flow =>
    rw [System.perform]
    dsimp only
    split
    · exact ⟨calm_endWith _ _, .inl rfl, rfl, .inl ⟨rfl, rfl⟩⟩
    · exact ⟨hrest, .inl rfl, rfl, .inl ⟨rfl, rfl⟩⟩
  | farewell =>
    obtain ⟨problems, hfarewell⟩ := s.farewell_eq rest
    rw [hfarewell]
    exact ⟨hrest, .inl rfl, rfl, .inl ⟨rfl, rfl⟩⟩
  | close =>
    obtain ⟨decoder, problems, hclose⟩ := s.close_eq
    rw [System.perform, hclose]
    exact ⟨fun _ h => absurd h List.not_mem_nil, .inl rfl, rfl, .inl ⟨rfl, rfl⟩⟩

theorem performing_isBeside {task : Task} (htask : task.IsCalm)
    (hrelease : ∀ request arguments, task = .release request arguments →
      s.registries.events.get? arguments.threadId = none) :
    ∀ x ∈ s.performing task, x.IsBeside := by
  intro x hx
  cases task with
  | send | fail | farewell =>
    obtain rfl := List.mem_singleton.mp hx
    trivial
  | release request arguments =>
    rw [System.performing, hrelease request arguments rfl] at hx
    exact absurd hx List.not_mem_nil
  | resume => exact htask.elim
  | _ => exact absurd hx List.not_mem_nil

theorem isBeside_of_heard {more : List Happening} (h : System.Heard s more t) :
    ∀ x ∈ more, x.IsBeside := by
  cases h with
  | message => exact List.forall_mem_singleton.mpr trivial
  | opened | unanswered =>
    exact List.forall_mem_cons.mpr ⟨trivial, List.forall_mem_singleton.mpr trivial⟩
  | ended => exact fun _ h => absurd h List.not_mem_nil

theorem busy_iff (session : SessionThread) (hphase : ¬phase.IsConfirming) :
    Busy session phase ↔ ∀ task ∈ session.work, task.IsCalm := by
  cases phase with
  | going => exact .rfl
  | waiting report c stage =>
    cases stage with
    | accepted => exact absurd trivial hphase
    | _ => exact .rfl

theorem At.undisturbed (h : At s phase) (hsolo : Solo s) (hphase : ¬phase.IsConfirming)
    (hkept : System.KeptBySession s t) (ht : Undisturbed s t) : At t phase where
  waits := by
    rcases ht.engine with ⟨hengine, -⟩ | ⟨hidle, hengine, -⟩
    · exact hengine ▸ h.waits
    · have hwaits := h.waits
      rw [hsolo.idle hidle] at hwaits
      rw [hengine]
      exact hwaits
  channels := hkept.channels_eq ▸ h.channels
  signals := ht.signals ▸ h.signals
  told := ht.signals ▸ h.told
  placed := by
    refine h.placed.keep (by rw [hkept.queue_eq]) ?_ ht.events
    rw [hkept.pump_eq]
    exact fun _ _ => id
  busy := (busy_iff t.session hphase).mpr ht.calm

/-- A stop in the table is the one at hand. -/
theorem Placed.of_listed (h : Placed s phase) {thread : Int64} {event : StopEvent}
    (hget : s.registries.events.get? thread = some event) :
    ∃ report c, phase = .waiting report c (.recorded event) ∧ event.thread = report.thread ∧
      event.resume = c ∧ thread = event.thread ∧ Holds s [] none [event] := by
  unfold ThreadTable.get? at hget
  have hempty : ∀ {queued noted}, ¬Holds s queued noted [] := by
    intro queued noted hholds
    rw [hholds.listed_eq] at hget
    exact nomatch hget
  cases phase with
  | going => exact (hempty h).elim
  | waiting report c stage =>
    cases stage with
    | reported => exact (h.elim hempty hempty).elim
    | recorded event' =>
      obtain ⟨hthread, hresume, hholds⟩ := h
      have hholds := hholds.resolve_right hempty
      rw [hholds.listed_eq, List.map_singleton, Ascending.lookup_cons] at hget
      split at hget
      · rename_i heq
        obtain rfl := Option.some.inj hget
        exact ⟨report, c, rfl, hthread, hresume, heq, hholds⟩
      · exact nomatch hget
    | accepted | failed | resumed => exact (hempty h).elim

/-- A request to go on is accepted. -/
theorem At.accept (h : At s phase) {request : Request} {arguments : ContinueArguments}
    {event : StopEvent} {rest : List Task}
    (hget : s.registries.events.get? arguments.threadId = some event)
    (hrequest : Task.IsCalm (.release request arguments)) (hrest : ∀ task ∈ rest, task.IsCalm) :
    ∃ next, Passage phase (s.performing (.release request arguments)) next ∧
      At (s.perform rest (.release request arguments)) next ∧
      Starts s (s.perform rest (.release request arguments)) := by
  obtain ⟨report, c, rfl, hthread, hresume, hsame, hholds⟩ := h.placed.of_listed hget
  obtain ⟨hcommand, harguments⟩ := hrequest
  rw [System.performing, hget, System.perform]
  refine ⟨.waiting report c (.accepted request event (confirmations request event.thread)),
    .single (.accept hthread hresume ⟨hcommand, arguments, harguments, hsame⟩), ?_⟩
  split
  · rename_i heq
    cases hget.symm.trans (congrArg Prod.fst heq)
  · rename_i event' events heq
    obtain rfl := Option.some.inj (hget.symm.trans (congrArg Prod.fst heq))
    have hevents : events.entries = [] := by
      have hreleased := congrArg (·.2.entries) heq
      rw [ThreadTable.release, hholds.listed_eq] at hreleased
      simpa [hsame] using hreleased.symm
    refine ⟨⟨h.waits, h.channels, h.signals, fun _ _ heq => (by cases heq),
      ⟨hholds.queued_eq, hholds.plan, hevents⟩, rfl, hresume, [.purgeFrames, .purgeVariables], rest,
      ?_, ?_, hrest⟩, .inl ⟨rfl, rfl⟩⟩
    · rw [hsame]
      rfl
    · exact List.forall_mem_cons.mpr ⟨.inl rfl, List.forall_mem_singleton.mpr (.inr rfl)⟩

theorem session_of_work {task : Task} {rest : List Task} (hwork : s.session.work = task :: rest) :
    s.session? = some (s.perform rest task) ∧ s.sessionHappenings = s.performing task := by
  constructor
  · rw [System.session?, hwork]
  · rw [System.sessionHappenings, hwork]

/-- The client is told that a thread goes on, and then the thread is told. -/
theorem At.confirm {report : DebugStop} {c : Channel} {request : Request} {event : StopEvent}
    {unsent : List Message} (h : At s (.waiting report c (.accepted request event unsent)))
    (hstep : s.session? = some t) :
    ∃ next, Passage (.waiting report c (.accepted request event unsent)) s.sessionHappenings next ∧
      At t next ∧ Starts s t := by
  obtain ⟨hheld, hresume, purges, rest, hwork, hpurges, hrest⟩ := h.busy
  obtain ⟨hqueued, hplan, hlisted⟩ : Holds s [] none [] := h.placed
  cases purges with
  | cons task purges =>
    obtain ⟨hnext, hmore⟩ := session_of_work hwork
    obtain rfl := Option.some.inj (hnext.symm.trans hstep)
    obtain ⟨htask, htail⟩ := List.forall_mem_cons.mp hpurges
    rw [hmore]
    refine ⟨.waiting report c (.accepted request event unsent), ?_, ?_⟩
    · rcases htask with rfl | rfl <;> exact .nil
    · rcases htask with rfl | rfl <;>
        exact ⟨⟨h.waits, h.channels, h.signals, h.told, ⟨hqueued, hplan, hlisted⟩, hheld, hresume,
          purges, rest, rfl, htail, hrest⟩, .inl ⟨rfl, rfl⟩⟩
  | nil =>
    cases unsent with
    | cons m unsent =>
      obtain ⟨hnext, hmore⟩ := session_of_work hwork
      obtain rfl := Option.some.inj (hnext.symm.trans hstep)
      rw [hmore, System.performing, System.perform]
      rcases s.outbox.post m with ⟨e | _, o⟩
      · exact ⟨.waiting report c .failed, .single .fail, ⟨h.waits, h.channels, h.signals,
          fun _ _ heq => (by cases heq), ⟨hqueued, hplan, hlisted⟩, calm_endWith _ _⟩,
          .inl ⟨rfl, rfl⟩⟩
      · exact ⟨.waiting report c (.accepted request event unsent), .single .confirm, ⟨h.waits,
          h.channels, h.signals, fun _ _ heq => (by cases heq), ⟨hqueued, hplan, hlisted⟩, hheld,
          hresume, [], rest, rfl, fun _ h => absurd h List.not_mem_nil, hrest⟩, .inl ⟨rfl, rfl⟩⟩
    | nil =>
      obtain ⟨hnext, hmore⟩ := session_of_work hwork
      obtain rfl := Option.some.inj (hnext.symm.trans hstep)
      obtain rfl := hresume
      rw [hmore, System.performing, System.perform, hheld]
      refine ⟨.waiting report event.resume .resumed, .single .resume, ⟨h.waits, h.channels, ?_, ?_,
        ⟨hqueued, hplan, hlisted⟩, hrest⟩, .inl ⟨rfl, rfl⟩⟩
      · refine List.forall_mem_cons.mpr ⟨Nat.lt_succ_self _, fun d hd => ?_⟩
        exact Nat.lt_succ_of_lt (h.signals d hd)
      · intro _ _ heq
        cases heq
        exact List.mem_cons_self

theorem At.session (h : At s phase) (hsolo : Solo s) (hstep : s.session? = some t) :
    ∃ next, Passage phase s.sessionHappenings next ∧ At t next ∧ Starts s t := by
  have hkept := System.keptBySession hstep
  by_cases hphase : phase.IsConfirming
  · match phase, hphase with
    | .waiting report c (.accepted request event unsent), _ => exact h.confirm hstep
  · have hcalm := (busy_iff s.session hphase).mp h.busy
    have hstay : Undisturbed s t → (∀ x ∈ s.sessionHappenings, x.IsBeside) →
        ∃ next, Passage phase s.sessionHappenings next ∧ At t next ∧ Starts s t :=
      fun ht hx => ⟨phase, .of_beside hx fun hconfirming => absurd hconfirming hphase,
        h.undisturbed hsolo hphase hkept ht, ht.engine⟩
    have hstep := System.sessionStep hstep
    generalize s.sessionHappenings = more at hstep hstay
    cases hstep with
    | hears hwork _ hreceive =>
      have hheard := System.heard hreceive
      exact hstay (.of_heard hwork hheard) (isBeside_of_heard hheard)
    | @performs task rest hwork =>
      obtain ⟨htask, hrest⟩ := List.forall_mem_cons.mp (hwork ▸ hcalm)
      by_cases haccept : ∃ request arguments event, task = .release request arguments ∧
          s.registries.events.get? arguments.threadId = some event
      · obtain ⟨request, arguments, event, rfl, hget⟩ := haccept
        exact h.accept hget htask hrest
      · have hrelease : ∀ request arguments, task = .release request arguments →
            s.registries.events.get? arguments.threadId = none := by
          intro request arguments heq
          cases hget : s.registries.events.get? arguments.threadId with
          | none => rfl
          | some event => exact absurd ⟨request, arguments, event, heq, hget⟩ haccept
        exact hstay (.of_perform htask hrelease hrest) (performing_isBeside htask hrelease)

end DebugAdapter.Evaluation
