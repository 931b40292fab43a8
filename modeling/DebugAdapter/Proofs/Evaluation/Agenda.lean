import DebugAdapter.Proofs.Evaluation.Agenda.Course

/-! # The course of a session in a run

No other thread changes what the session has to do. The evaluation is started by the session alone,
and before that the engine, the pump and the tables have nothing. -/

namespace DebugAdapter.Evaluation

open Debuggee Protocol Session

variable {s t : System}

/-! ## What the others leave to the session -/

/-- A move in which the session takes no part. Once the context is done it stays so. -/
structure Idles (s t : System) : Prop where
  state_eq : t.session.state = s.session.state
  work_eq : t.session.work = s.session.work
  held_eq : t.session.held = s.session.held
  started_eq : t.session.started = s.session.started
  cancelled : s.cancelled = true → t.cancelled = true

theorem Idles.of_session (hsession : t.session = s.session)
    (hcancelled : s.cancelled = true → t.cancelled = true) : Idles s t :=
  ⟨by rw [hsession], by rw [hsession], by rw [hsession], by rw [hsession], hcancelled⟩

theorem cancelled_pumpPerform (rest : List PumpTask) (task : PumpTask)
    (h : s.cancelled = true) : (s.pumpPerform rest task).cancelled = true := by
  cases task with
  | cancel => rfl
  | record report resume ids scopes frames =>
    cases frames with
    | nil => exact h
    | cons frame frames =>
      unfold System.pumpPerform
      dsimp only
      split <;> exact h
  | _ => exact h

theorem cancelled_pump (hstep : s.pump? = some t) (h : s.cancelled = true) :
    t.cancelled = true := by
  cases System.pumpStep hstep with
  | performs => exact cancelled_pumpPerform _ _ h
  | takes => exact h

theorem cancelled_engine (hstep : s.engine? = some t) (h : s.cancelled = true) :
    t.cancelled = true := by
  have hstep := System.engineStep hstep
  generalize s.engineHappenings = more at hstep
  cases hstep with
  | offers => exact Bool.or_eq_true_iff.mpr (.inl h)
  | _ => exact h

theorem idles_move {move : Move} (hmove : move ≠ .step .session) (h : s.move? move = some t) :
    Idles s t := by
  match move with
  | .step .session => exact absurd rfl hmove
  | .step .pump => exact .of_session (System.keptByPump h).session_eq (cancelled_pump h)
  | .step .engine => exact .of_session (System.keptByEngine h).session_eq (cancelled_engine h)
  | .step (.aside c) =>
    refine .of_session (System.keptByAside h).session_eq fun hcancelled => ?_
    obtain ⟨-, goesOn, -, rfl⟩ := System.aside_eq h
    exact hcancelled
  | .report stop =>
    refine .of_session (System.keptByReport h).session_eq fun hcancelled => ?_
    obtain ⟨-, rfl⟩ := System.reportAside_eq h
    exact hcancelled
  | .deliver _ | .hangUp =>
    obtain rfl := Option.some.inj h
    exact ⟨rfl, rfl, rfl, rfl, id⟩

theorem Agenda.idle (h : Agenda s) (hidle : Idles s t) : Agenda t := by
  obtain ⟨hstate', hwork', hheld', hstarted', hcancelled'⟩ := hidle
  cases h with
  | unopened hstate hwork hheld hstarted =>
    exact .unopened (hstate' ▸ hstate) (hwork' ▸ hwork) (hheld'.trans hheld)
      (hstarted'.trans hstarted)
  | ready hstate hwork => exact .ready (hstate'.trans hstate) (hwork'.trans hwork)
  | busy hstate herrand hwork hstart =>
    exact .busy (hstate'.trans hstate) herrand (hwork'.trans hwork) (hstarted' ▸ hstart)
  | leaving hstate hwork hne hheld hcancelled =>
    exact .leaving (hstate'.trans hstate) (hwork' ▸ hwork) (hwork' ▸ hne) (hheld'.trans hheld)
      (hcancelled.imp (hwork' ▸ ·) hcancelled')
  | ended hstate hwork hheld hcancelled =>
    exact .ended (hstate'.trans hstate) (hwork'.trans hwork) (hheld'.trans hheld)
      (hcancelled.imp hstarted'.trans hcancelled')

theorem Agenda.move {move : Move} (h : Agenda s) (hmove : s.move? move = some t) : Agenda t := by
  by_cases hsession : move = .step .session
  · subst hsession
    exact h.session hmove
  · exact h.idle (idles_move hsession hmove)

theorem cancelled_perform (s : System) (rest : List Task) (task : Task)
    (h : s.cancelled = true) : (s.perform rest task).cancelled = true := by
  cases task with
  | start =>
    rcases perform_start s rest with ⟨hsame, -⟩ | ⟨-, hnot, -⟩
    · rw [hsame]
      exact h
    · exact nomatch hnot.symm.trans h
  | cancel => rfl
  | purgeEvents | resume => exact h
  | release =>
    rw [System.perform]
    split <;> exact h
  | send | fail | findStop | findFrames | findScopes | findVariables | purgeFrames |
    purgeVariables | decide | farewell | close =>
    exact (untouched_perform s rest (by trivial)).cancelled_eq.trans h

theorem cancelled_session (hstep : s.session? = some t) (h : s.cancelled = true) :
    t.cancelled = true := by
  have hstep := System.sessionStep hstep
  generalize s.sessionHappenings = more at hstep
  cases hstep with
  | performs => exact cancelled_perform _ _ _ h
  | hears _ _ hreceive => exact (untouched_heard (System.heard hreceive)).cancelled_eq.trans h

/-- Once the context is done it stays so. -/
theorem cancelled_move {move : Move} (hmove : s.move? move = some t) (h : s.cancelled = true) :
    t.cancelled = true := by
  by_cases hsession : move = .step .session
  · subst hsession
    exact cancelled_session hmove h
  · exact (idles_move hsession hmove).cancelled h

theorem handleds_performing (s : System) (task : Task) : handleds (s.performing task) = [] := by
  cases task with
  | release request arguments =>
    rw [System.performing]
    cases s.registries.events.get? arguments.threadId <;> rfl
  | resume =>
    rw [System.performing]
    cases s.session.held <;> rfl
  | _ => rfl

theorem handleds_of_isBy {actor : Actor} {more : List Happening} (h : ∀ x ∈ more, x.IsBy actor)
    (hactor : actor ≠ .session) : handleds more = [] := by
  refine List.filterMap_eq_nil_iff.mpr fun x hx => ?_
  cases x with
  | handled => exact absurd (h _ hx) hactor
  | _ => rfl

/-- Only the session takes up messages. -/
theorem handleds_idle {move : Move} (hmove : move ≠ .step .session) :
    handleds (s.happenings move) = [] := by
  match move with
  | .step actor =>
    exact handleds_of_isBy (System.happenings_isBy s actor) fun h => hmove (congrArg Move.step h)
  | .report stop =>
    exact handleds_of_isBy (isBy_engine (System.reporting_isOfEngine s stop)) Actor.noConfusion
  | .deliver _ | .hangUp => rfl

/-! ## Starting the evaluation -/

/-- A step of the session starts the evaluation, or it leaves the engine alone. -/
inductive Commences (s t : System) : Prop where
  | same (hengine : t.engine = s.engine) (hstarted : t.session.started = s.session.started)
  | starts (hbefore : s.session.started = false) (hcancelled : s.cancelled = false)
      (hwork : s.session.work = .start :: t.session.work) (hengine : t.engine = .running s.script)
      (hstarted : t.session.started = true)

theorem commences_session (h : s.session? = some t) : Commences s t := by
  have hstep := System.sessionStep h
  generalize s.sessionHappenings = more at hstep
  cases hstep with
  | hears _ _ hreceive =>
    have hsame := untouched_heard (System.heard hreceive)
    exact .same hsame.engine_eq hsame.started_eq
  | @performs task rest hwork =>
    by_cases htask : task = .start
    · subst htask
      rcases perform_start s rest with ⟨hnext, -⟩ | ⟨hbefore, hcancelled, hnext⟩ <;> rw [hnext]
      · exact .same rfl rfl
      · exact .starts hbefore hcancelled hwork rfl rfl
    · refine .same ?_ (started_perform s rest htask)
      cases task with
      | start => exact absurd rfl htask
      | cancel | purgeEvents | resume => rfl
      | release =>
        rw [System.perform]
        split <;> rfl
      | send | fail | findStop | findFrames | findScopes | findVariables | purgeFrames |
        purgeVariables | decide | farewell | close =>
        exact (untouched_perform s rest (by trivial)).engine_eq

/-- The session puts no stop into the table. -/
theorem events_perform (s : System) (rest : List Task) (task : Task) :
    (s.perform rest task).registries.events.entries ⊆ s.registries.events.entries := by
  cases task with
  | start =>
    rcases perform_start s rest with ⟨hnext, -⟩ | ⟨-, -, hnext⟩ <;> rw [hnext] <;>
      exact List.Subset.refl _
  | cancel | resume => exact List.Subset.refl _
  | purgeEvents => exact List.nil_subset _
  | release request arguments =>
    rw [System.perform]
    split
    · exact List.Subset.refl _
    · rename_i heq
      have hreleased := s.registries.events.release_subset arguments.threadId
      rw [heq] at hreleased
      exact hreleased
  | send | fail | findStop | findFrames | findScopes | findVariables | purgeFrames |
    purgeVariables | decide | farewell | close =>
    rw [(untouched_perform s rest (by trivial)).events_eq]
    exact List.Subset.refl _

theorem events_session (hstep : s.session? = some t) :
    t.registries.events.entries ⊆ s.registries.events.entries := by
  have hstep := System.sessionStep hstep
  generalize s.sessionHappenings = more at hstep
  cases hstep with
  | performs => exact events_perform _ _ _
  | hears _ _ hreceive =>
    rw [(untouched_heard (System.heard hreceive)).events_eq]
    exact List.Subset.refl _

/-- Nothing of an evaluation is there. -/
structure Dormant (s : System) : Prop where
  engine : s.engine = .idle
  pump : s.pump = []
  items : s.queue.items = []
  events : s.registries.events.entries = []
  aside : s.aside = []

/-- As long as the evaluation is not started only the session and the client do something. -/
theorem Dormant.move {move : Move} (h : s.session.started = false → Dormant s)
    (hmove : s.move? move = some t) (hstarted : t.session.started = false) : Dormant t := by
  match move with
  | .step .session =>
    have hkept := System.keptBySession hmove
    cases commences_session hmove with
    | same hengine hsame =>
      obtain ⟨hidle, hpump, hitems, hevents, haside⟩ := h (hsame ▸ hstarted)
      exact ⟨hengine.trans hidle, hkept.pump_eq.trans hpump, hkept.queue_eq ▸ hitems,
        List.subset_nil.mp (hevents ▸ events_session hmove), hkept.aside_eq.trans haside⟩
    | starts _ _ _ _ hnext => exact nomatch hnext.symm.trans hstarted
  | .step .pump =>
    obtain ⟨-, hpump, hitems, -, -⟩ := h ((System.keptByPump hmove).session_eq ▸ hstarted)
    cases System.pumpStep hmove with
    | performs hbusy => exact nomatch hpump.symm.trans hbusy
    | takes _ hqueue => exact nomatch hitems.symm.trans hqueue
  | .step .engine =>
    have hidle := (h ((System.keptByEngine hmove).session_eq ▸ hstarted)).engine
    exact absurd hidle (System.engineStep hmove).ne_idle
  | .step (.aside c) =>
    have haside := (h ((System.keptByAside hmove).session_eq ▸ hstarted)).aside
    exact nomatch haside ▸ (System.aside_eq hmove).1
  | .report stop =>
    have hidle := (h ((System.keptByReport hmove).session_eq ▸ hstarted)).engine
    exact absurd hidle (System.reportAside_eq hmove).1
  | .deliver _ | .hangUp =>
    obtain rfl := Option.some.inj hmove
    obtain ⟨hidle, hpump, hitems, hevents, haside⟩ := h hstarted
    exact ⟨hidle, hpump, hitems, hevents, haside⟩

end DebugAdapter.Evaluation
