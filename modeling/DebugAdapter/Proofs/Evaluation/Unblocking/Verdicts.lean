import DebugAdapter.Proofs.Evaluation.Unblocking.Holding

/-! # How waits end

A thread is told to go on only for a request that was accepted for its stop. Once nobody holds its
channel, the verdict on it does not change any more. -/

namespace DebugAdapter.Evaluation

open Debuggee Protocol Session

variable {s t : System}

/-! ## Telling a thread to go on -/

/-- A step of the session tells the thread to go on whose stop it holds, or no thread. -/
inductive Signals (s t : System) (more : List Happening) : Prop where
  | same (hsignals : t.signals = s.signals) (hmore : ∀ c, .resumed c ∉ more)
  | resumes {event : StopEvent} {rest : List Task} (hwork : s.session.work = .resume :: rest)
      (hheld : s.session.held = some event) (hsignals : t.signals = event.resume :: s.signals)
      (hmore : more = [.resumed event.resume])

theorem signals_perform {task : Task} {rest : List Task} (hwork : s.session.work = task :: rest) :
    Signals s (s.perform rest task) (s.performing task) := by
  have hnone : ∀ c, .resumed c ∉ ([] : List Happening) := fun _ => List.not_mem_nil
  cases task with
  | resume =>
    rw [System.perform, System.performing]
    cases hheld : s.session.held with
    | none => exact .same rfl hnone
    | some event => exact .resumes hwork hheld rfl rfl
  | start =>
    refine .same ?_ hnone
    rcases perform_start s rest with ⟨h, -⟩ | ⟨-, -, h⟩
    · rw [h]
      rfl
    · rw [h]
  | cancel | purgeEvents => exact .same rfl hnone
  | release request arguments =>
    refine .same ?_ fun c hc => ?_
    · rw [System.perform]
      split <;> rfl
    · rw [System.performing] at hc
      obtain ⟨event, -, heq⟩ := Option.map_eq_some_iff.mp (Option.mem_toList.mp hc)
      cases heq
  | send | fail | farewell =>
    refine .same (untouched_perform s rest (by trivial)).signals_eq fun c hc => ?_
    cases List.mem_singleton.mp hc
  | findStop | findFrames | findScopes | findVariables | purgeFrames | purgeVariables | decide |
    close =>
    exact .same (untouched_perform s rest (by trivial)).signals_eq hnone

theorem signals_session (hstep : s.session? = some t) : Signals s t s.sessionHappenings := by
  have hstep := System.sessionStep hstep
  generalize s.sessionHappenings = more at hstep
  cases hstep with
  | performs hwork => exact signals_perform hwork
  | hears _ _ hreceive =>
    have hheard := System.heard hreceive
    exact .same (untouched_heard hheard).signals_eq fun c hc => isBeside_of_heard hheard _ hc

theorem Errand.of_release {thread : Option Int64} {request : Request}
    {arguments : ContinueArguments} {tasks : List Task}
    (h : Errand thread (.release request arguments :: tasks)) : request.command = "continue" := by
  cases h with
  | look h => exact h
  | passing h => exact h.elim

/-- Before a thread goes on only handles are dropped and messages are posted. -/
theorem Errand.of_resume {thread : Option Int64} {task : Task} {tasks : List Task}
    (h : Errand thread (task :: tasks)) (hresume : .resume ∈ tasks) :
    (∃ m, task = .send m) ∨ task = .purgeFrames ∨ task = .purgeVariables := by
  cases h with
  | fail | start | look | resuming => exact absurd hresume List.not_mem_nil
  | cancel => simp at hresume
  | telling => exact .inl ⟨_, rfl⟩
  | passing h =>
    cases task with
    | send m => exact .inl ⟨m, rfl⟩
    | purgeFrames => exact .inr (.inl rfl)
    | purgeVariables => exact .inr (.inr rfl)
    | _ => exact h.elim

/-- The session works on a message when a thread is to go on, or is still to be asked for. -/
theorem Agenda.of_resume (h : Agenda s) {task : Task} {rest : List Task}
    (hwork : s.session.work = task :: rest)
    (hresume : .resume ∈ rest ∨ ∃ request arguments, task = .release request arguments) :
    ∃ thread tasks wasStarted flow, Errand thread (task :: tasks) ∧
      rest = tasks ++ [Task.decide wasStarted flow] := by
  cases h with
  | unopened _ hclose =>
    obtain ⟨rfl, rfl⟩ : task = .close ∧ rest = [] := by simpa [hwork] using hclose
    simp at hresume
  | ready _ hready | ended _ hready => exact nomatch hwork.symm.trans hready
  | leaving _ hleaving =>
    rw [hwork] at hleaving
    rcases farewell_of_suffix hleaving with
      ⟨rfl, rfl⟩ | ⟨rfl, rfl⟩ | ⟨rfl, rfl⟩ | ⟨rfl, rfl⟩ | ⟨rfl, rfl⟩ | ⟨rfl, rfl⟩ <;>
      simp at hresume
  | @busy thread tasks wasStarted flow hstate herrand hbusy =>
    cases tasks with
    | nil =>
      obtain ⟨rfl, rfl⟩ := List.cons.inj (hwork.symm.trans hbusy)
      simp at hresume
    | cons first tasks =>
      obtain ⟨rfl, rfl⟩ := List.cons.inj (hwork.symm.trans hbusy)
      exact ⟨thread, tasks, wasStarted, flow, herrand, rfl⟩

/-- The session is to tell a thread to go on, for a request that it accepted. -/
def Resuming (log : List Happening) (s : System) : Prop :=
  .resume ∈ s.session.work → ∃ request event, s.session.held = some event ∧
    request.command = "continue" ∧ .accepted request event ∈ log

theorem Resuming.perform {log : List Happening} (h : Resuming log s) (hagenda : Agenda s)
    {task : Task} {rest : List Task} (hwork : s.session.work = task :: rest) :
    Resuming (log ++ s.performing task) (s.perform rest task) := by
  intro hresume
  rcases mem_perform s rest task hresume with
    hrest | hfarewell | hreply | ⟨request, arguments, event, ⟨rfl, hget, hheld⟩, -⟩
  · obtain ⟨thread, tasks, wasStarted, flow, herrand, rfl⟩ := hagenda.of_resume hwork (.inl hrest)
    obtain ⟨request, event, hheld, hcommand, haccepted⟩ :=
      h (hwork ▸ List.mem_cons_of_mem _ hrest)
    refine ⟨request, event, ?_, hcommand, List.mem_append_left _ haccepted⟩
    rcases herrand.of_resume (by simpa using hrest) with ⟨m, rfl⟩ | rfl | rfl
    · rw [System.perform] at hresume ⊢
      generalize s.outbox.post m = outcome at hresume ⊢
      rcases outcome with ⟨e | _, o⟩
      · exact absurd (farewell_of_endWith _ _ hresume) (by decide)
      · exact hheld
    · exact hheld
    · exact hheld
  · exact absurd hfarewell (by decide)
  · exact hreply.elim
  · obtain ⟨thread, tasks, wasStarted, flow, herrand, rfl⟩ :=
      hagenda.of_resume hwork (.inr ⟨request, arguments, rfl⟩)
    refine ⟨request, event, hheld, herrand.of_release, List.mem_append_right _ ?_⟩
    rw [System.performing, hget]
    exact List.mem_cons_self

theorem resume_heard {more : List Happening} (hwork : s.session.work = [])
    (h : System.Heard s more t) : .resume ∉ t.session.work :=
  fun hmem => (Undisturbed.of_heard hwork h).calm _ hmem

theorem Resuming.move {log : List Happening} (h : Resuming log s) (hagenda : Agenda s)
    {move : Move} (hmove : s.move? move = some t) : Resuming (log ++ s.happenings move) t := by
  by_cases hsession : move = .step .session
  · subst hsession
    have hstep := System.sessionStep hmove
    rw [System.happenings]
    generalize s.sessionHappenings = more at hstep
    cases hstep with
    | performs hwork => exact h.perform hagenda hwork
    | hears hwork _ hreceive =>
      exact fun hresume => absurd hresume (resume_heard hwork (System.heard hreceive))
  · have hidle := idles_move hsession hmove
    rw [Resuming, hidle.work_eq, hidle.held_eq]
    intro hresume
    obtain ⟨request, event, hheld, hcommand, haccepted⟩ := h hresume
    exact ⟨request, event, hheld, hcommand, List.mem_append_left _ haccepted⟩

theorem signals_move {move : Move} (hmove : s.move? move = some t) :
    Signals s t (s.happenings move) := by
  cases System.moved hmove with
  | session hstep => exact signals_session hstep
  | pump hstep =>
    exact .same (System.keptByPump hstep).signals_eq fun _ hc =>
      Actor.noConfusion (System.happenings_isBy s .pump _ hc)
  | engine hkept hmore => exact .same hkept.signals_eq fun _ hc => (hmore _ hc).elim
  | client hmore =>
    refine .same rfl fun c hc => ?_
    rw [hmore] at hc
    exact absurd hc List.not_mem_nil

/-! ## How waits end -/

theorem verdict?_eq_true {c : Channel} : s.verdict? c = some true ↔ c ∈ s.signals := by
  unfold System.verdict?
  split
  · simp [*]
  · split <;> simp [*]

theorem verdict?_eq_false {c : Channel} :
    s.verdict? c = some false ↔ c ∉ s.signals ∧ s.isHeld c = false := by
  unfold System.verdict?
  split
  · simp [*]
  · split <;> simp [*]

/-- What a thread has learned stays true. -/
theorem verdict_move (hopens : Opens s t) {more : List Happening} (hsignals : Signals s t more)
    {c : Channel} {goesOn : Bool} (hc : c < s.channels) (h : s.verdict? c = some goesOn) :
    t.verdict? c = some goesOn := by
  cases goesOn with
  | true =>
    rw [verdict?_eq_true] at h ⊢
    cases hsignals with
    | same heq => exact heq ▸ h
    | resumes _ _ heq => exact heq ▸ List.mem_cons_of_mem _ h
  | false =>
    rw [verdict?_eq_false] at h ⊢
    obtain ⟨hnot, hheld⟩ := h
    constructor
    · cases hsignals with
      | same heq => exact heq ▸ hnot
      | @resumes event rest _ hevent heq =>
        rw [heq, List.mem_cons, not_or]
        refine ⟨?_, hnot⟩
        -- a stop that the session holds is not dropped
        rintro rfl
        have hholds : s.isHeld event.resume = true :=
          isHeld_iff.mpr (.inr (.inr (.inr ⟨event, hevent, rfl⟩)))
        exact nomatch hholds.symm.trans hheld
    · rw [Bool.eq_false_iff] at hheld ⊢
      intro hholds
      rcases hopens.held c hholds with hbefore | ⟨hnew, -⟩
      · exact hheld hbefore
      · exact Nat.ne_of_lt hc hnew

theorem returned_move {move : Move} (hmove : s.move? move = some t) {c : Channel} {goesOn : Bool}
    (h : .returned c goesOn ∈ s.happenings move) :
    s.verdict? c = some goesOn ∧ (s.engine.waits? = some c ∨ c ∈ s.aside) := by
  have hreturning : ∀ {d}, .returned c goesOn ∈ s.returning d →
      d = c ∧ s.verdict? c = some goesOn := by
    intro d hd
    obtain ⟨verdict, hverdict, heq⟩ := Option.map_eq_some_iff.mp (Option.mem_toList.mp hd)
    obtain ⟨rfl, rfl⟩ := Happening.returned.inj heq
    exact ⟨rfl, hverdict⟩
  have henqueuing : ∀ {item}, .returned c goesOn ∉ s.enqueuing item := by
    intro item hmem
    unfold System.enqueuing at hmem
    split at hmem
    · exact nomatch List.mem_singleton.mp hmem
    · exact nomatch hmem
  match move with
  | .step .session => exact nomatch (System.happenings_isBy s .session _ h).1 rfl
  | .step .pump => exact nomatch (System.happenings_isBy s .pump _ h).2 rfl
  | .step .engine =>
    have hstep := System.engineStep hmove
    unfold System.happenings at h
    dsimp only at h
    generalize s.engineHappenings = more at hstep h
    cases hstep with
    | returns hengine hverdict =>
      cases List.mem_singleton.mp h
      exact ⟨hverdict, .inl (by rw [hengine]; rfl)⟩
    | writes | stops | stopsAside | offers => exact absurd h henqueuing
    | _ => exact absurd h List.not_mem_nil
  | .step (.aside d) =>
    obtain ⟨rfl, hverdict⟩ := hreturning h
    exact ⟨hverdict, .inr (System.aside_eq hmove).1⟩
  | .report stop =>
    rw [System.happenings, System.reporting] at h
    split at h
    · cases List.mem_singleton.mp h
    · exact absurd h List.not_mem_nil
  | .deliver _ | .hangUp => exact absurd h List.not_mem_nil

end DebugAdapter.Evaluation
