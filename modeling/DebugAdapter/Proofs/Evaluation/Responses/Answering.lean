import DebugAdapter.Proofs.Evaluation.Responses.Welcoming

/-! # What a session answers

Each task of the session either answers the request that is owed an answer, or leaves it to the
tasks after it. -/

namespace DebugAdapter.Evaluation

open Debuggee Protocol Session

variable {start : Outbox} {log : List Happening} {s t : System}

/-- A step of the session in which nothing is posted. -/
theorem Serving.of_rest {more : List Happening} (h : Serving start log s)
    (hstate : s.session.state ≠ .closed) (hmore : ∀ x ∈ more, x.IsSilent)
    (houtbox : t.outbox = s.outbox) (hopen : t.session.state ≠ .closed) (hpump : t.pump = s.pump)
    (howes : ∀ pending, Owes pending s.session.work → Owes pending t.session.work) :
    Serving start (log ++ more) t :=
  h.of_unsent (.of_silent hmore) (.inr ⟨hopen, houtbox ▸ h.accepts hstate⟩) (by rw [houtbox])
    (by rw [houtbox]) howes (hpump ▸ h.pump)

/-- A step that has nothing to do with the session. -/
theorem Serving.of_aside {more : List Happening} (h : Serving start log s)
    (hmore : ∀ x ∈ more, x.IsSilent) (houtbox : t.outbox = s.outbox)
    (hsession : t.session = s.session) (hpump : ∀ m, .send m ∈ t.pump → IsEvent m) :
    Serving start (log ++ more) t :=
  h.of_unsent (.of_silent hmore) (by rw [hsession, houtbox]; exact h.connection) (by rw [houtbox])
    (by rw [houtbox]) (fun _ howes => hsession ▸ howes) hpump

/-- A step of the session in which a message is posted. -/
theorem Serving.send {m : Message} {rest : List Task} {o : Outbox} (h : Serving start log s)
    (hroom : s.outbox.seq + 1 < 2 ^ 63) (hstate : s.session.state ≠ .closed) (hm : m.Sendable)
    (hsink : o.sink = s.outbox.sink) (hseq : o.seq = s.outbox.seq)
    (hmatched : ∀ bytes, ∃ pending,
      Matched pending (log ++ [Happening.posted .session m (.ok ()) bytes]) ∧ Owes pending rest) :
    Serving start (log ++ [System.posting .session m s.outbox (o.post m)])
      (s.sent rest (o.post m)) := by
  obtain ⟨payload, o', hpost, hdelivered⟩ :=
    Outbox.post_of_accepts hm (hsink ▸ h.accepts hstate) (hseq ▸ hroom)
  rw [hpost]
  exact .of_post (h.carried.of_same (congrArg Sink.bytes hsink) hseq) h.posts hdelivered hstate
    ⟨.inl rfl, fun _ => rfl, absurd rfl⟩ (hmatched _) h.pump

theorem Owes.rest_of_quiet {pending : Option Request} {task : Task} {rest : List Task}
    (h : Owes pending (task :: rest)) (hnotFinal : ¬ task.IsFinal)
    (hnoAnswer : ∀ r, ¬ task.IsAnswer r) : Owes pending rest := by
  cases h with
  | quiet _ hrest => exact hrest
  | final hfinal => exact absurd hfinal hnotFinal
  | answer hanswer => exact absurd hanswer (hnoAnswer _)

theorem Owes.rest_of_final {pending : Option Request} {task : Task} {rest : List Task}
    (h : Owes pending (task :: rest)) (hnotQuiet : ¬ task.IsQuiet)
    (hnoAnswer : ∀ r, ¬ task.IsAnswer r) : pending = none ∧ Owes none rest := by
  cases h with
  | quiet hquiet => exact absurd hquiet hnotQuiet
  | final _ hrest => exact ⟨rfl, hrest⟩
  | answer hanswer => exact absurd hanswer (hnoAnswer _)

theorem Owes.rest_of_answer {pending : Option Request} {task : Task} {rest : List Task}
    (h : Owes pending (task :: rest)) (hnotQuiet : ¬ task.IsQuiet) (hnotFinal : ¬ task.IsFinal) :
    ∃ r, pending = some r ∧ task.IsAnswer r ∧ Owes none rest := by
  cases h with
  | quiet hquiet => exact absurd hquiet hnotQuiet
  | final hfinal => exact absurd hfinal hnotFinal
  | answer hanswer hrest => exact ⟨_, rfl, hanswer, hrest⟩

/-- The task posts no message and does not close the session. -/
def Task.IsSilent : Task → Prop
  | .send _ | .fail _ _ | .farewell | .close => False
  | _ => True

theorem performing_of_silent (s : System) {task : Task} (h : task.IsSilent) :
    ∀ x ∈ s.performing task, x.IsSilent := by
  intro x hx
  cases task with
  | send | fail | farewell | close => exact h.elim
  | release | resume =>
    rw [System.performing] at hx
    obtain ⟨event, -, rfl⟩ := Option.map_eq_some_iff.mp (Option.mem_toList.mp hx)
    trivial
  | _ => exact absurd hx List.not_mem_nil

/-- What a task leaves as it is that posts nothing. -/
structure Passes (s t : System) : Prop where
  outbox_eq : t.outbox = s.outbox
  state_ne : s.session.state ≠ .closed → t.session.state ≠ .closed

theorem passes_perform (s : System) (rest : List Task) {task : Task} (h : task.IsSilent) :
    Passes s (s.perform rest task) := by
  cases task with
  | send | fail | farewell | close => exact h.elim
  | cancel | findScopes | findVariables | purgeEvents | purgeFrames | purgeVariables | resume =>
    exact ⟨rfl, id⟩
  | start | findStop | findFrames | release =>
    unfold System.perform
    dsimp only
    split <;> exact ⟨rfl, id⟩
  | decide =>
    unfold System.perform
    dsimp only
    split
    · refine ⟨rfl, fun hstate => ?_⟩
      rw [System.endWith_state]
      split
      · decide
      · exact hstate
    · exact ⟨rfl, id⟩

/-- A task that posts nothing hands on what it owes. -/
theorem owes_perform (s : System) {pending : Option Request} {task : Task} {rest : List Task}
    (hsilent : task.IsSilent) (h : Owes pending (task :: rest)) :
    Owes pending (s.perform rest task).session.work := by
  cases task with
  | send | fail | farewell | close => exact hsilent.elim
  | cancel | purgeEvents | purgeFrames | purgeVariables | resume =>
    exact h.rest_of_quiet id fun _ => id
  | start =>
    unfold System.perform
    dsimp only
    split <;> exact h.rest_of_quiet id fun _ => id
  | decide =>
    obtain ⟨rfl, hrest⟩ := h.rest_of_final id fun _ => id
    unfold System.perform
    dsimp only
    split
    · exact owes_endWith _ _
    · exact hrest
  | findStop request arguments =>
    obtain ⟨r, rfl, ⟨rfl, hcommand⟩, hrest⟩ := h.rest_of_answer id id
    rw [System.perform]
    split
    · exact .answer rfl hrest
    · exact .answer ⟨rfl, hcommand⟩ hrest
  | findFrames request arguments ids found =>
    obtain ⟨r, rfl, ⟨rfl, hcommand⟩, hrest⟩ := h.rest_of_answer id id
    cases ids with
    | cons => exact .answer ⟨rfl, hcommand⟩ hrest
    | nil => exact owes_respond (by rintro _ ⟨⟩; exact ⟨hcommand.symm, rfl⟩) hrest
  | findScopes request arguments | findVariables request arguments =>
    obtain ⟨r, rfl, ⟨rfl, hcommand⟩, hrest⟩ := h.rest_of_answer id id
    rw [System.perform, System.withWork]
    dsimp only
    split
    · exact owes_respond (by rintro _ ⟨⟩; exact ⟨hcommand.symm, rfl⟩) hrest
    · exact .answer rfl hrest
  | release request arguments =>
    obtain ⟨r, rfl, ⟨rfl, hcommand⟩, hrest⟩ := h.rest_of_answer id id
    rw [System.perform]
    split
    · exact .answer rfl hrest
    · refine .quiet trivial (.quiet trivial (owes_respond ?_ ?_))
      · rintro _ ⟨⟩
        exact ⟨hcommand.symm, rfl⟩
      · exact .quiet (isEvent_ofBody _) (.quiet trivial hrest)

theorem serving_silent {task : Task} {rest : List Task} (h : Serving start log s)
    (hstate : s.session.state ≠ .closed) (hwork : s.session.work = task :: rest)
    (hsilent : task.IsSilent) : Serving start (log ++ s.performing task) (s.perform rest task) := by
  have hpasses := passes_perform s rest hsilent
  refine h.of_rest hstate (performing_of_silent s hsilent) hpasses.outbox_eq
    (hpasses.state_ne hstate) (System.KeptBySession.perform s rest task).pump_eq ?_
  intro pending howes
  rw [hwork] at howes
  exact owes_perform s hsilent howes

theorem serving_perform {task : Task} {rest : List Task} (h : Serving start log s)
    (hmodest : Modest start (log ++ s.performing task)) (hwork : s.session.work = task :: rest) :
    Serving start (log ++ s.performing task) (s.perform rest task) := by
  have hstate : s.session.state ≠ .closed := by
    intro hclosed
    rcases h.connection with ⟨-, hnil, -⟩ | ⟨hopen, -⟩
    · exact nomatch hwork.symm.trans hnil
    · exact hopen hclosed
  have hroom := h.room hmodest.of_append
  obtain ⟨pending, hmatched, howes⟩ := h.matched
  rw [hwork] at howes
  have hsendable : ∀ {r p}, pending = some r → Answers r p → (Message.response p).Sendable := by
    intro r p hpending hp
    obtain ⟨hpos, hnamed⟩ := hmodest.of_append.requests r (hpending ▸ hmatched).mem
    exact hp.sendable hpos hnamed
  cases task with
  | send m =>
    cases howes with
    | quiet hevent hrest =>
      exact h.send hroom hstate hevent.choose_spec.2 rfl rfl
        fun _ => ⟨_, hmatched.event hevent, hrest⟩
    | final hfinal => exact hfinal.elim
    | answer hanswer hrest =>
      obtain ⟨p, rfl, hp⟩ := hanswer
      exact h.send hroom hstate (hsendable rfl hp) rfl rfl
        fun _ => ⟨_, hmatched.answer hp, hrest⟩
  | fail request text =>
    obtain ⟨r, rfl, rfl, hrest⟩ := howes.rest_of_answer id id
    have hp := answers_failed request text
    obtain ⟨journal, hrespond⟩ := s.outbox.respondError_eq request text
    rw [System.perform, System.performing, hrespond]
    exact h.send hroom hstate (hsendable rfl hp) rfl rfl fun _ => ⟨_, hmatched.answer hp, hrest⟩
  | farewell =>
    obtain ⟨rfl, hrest⟩ := howes.rest_of_final id fun _ => id
    have hevent : IsEvent (.event { event := "terminated" }) := isEvent_named (by decide)
    obtain ⟨payload, o', hpost, hdelivered⟩ :=
      Outbox.post_of_accepts hevent.choose_spec.2 (h.accepts hstate) hroom
    obtain ⟨problems, hfarewell⟩ := s.farewell_eq rest
    rw [hfarewell, System.performing, Outbox.event_eq, hpost]
    exact .of_post h.carried h.posts hdelivered hstate ⟨.inl rfl, fun _ => rfl, absurd rfl⟩
      ⟨none, hmatched.event hevent, hrest⟩ h.pump
  | close =>
    obtain ⟨rfl, -⟩ := howes.rest_of_final id fun _ => id
    obtain ⟨decoder, problems, hclose⟩ := s.close_eq
    rw [System.perform, hclose]
    refine h.of_unsent .nil
      (.inl ⟨rfl, rfl, (h.accepts hstate).attached_close⟩) (Sink.bytes_close _) rfl ?_ h.pump
    intro pending howes
    rw [hwork] at howes
    obtain ⟨rfl, -⟩ := howes.rest_of_final id fun _ => id
    exact .nil
  | _ => exact serving_silent h hstate hwork trivial

end DebugAdapter.Evaluation
