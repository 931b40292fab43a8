import DebugAdapter.Proofs.Evaluation.Recording.Hand

/-! # Recording stops

Recording a stop takes the pump many steps, and the session may step in between any two of them. It
only takes stops out of the table and purges handles, so what is in the table comes from the stops
that were recorded, in their order. -/

namespace DebugAdapter.Evaluation

open Debuggee Protocol Session

section Step

variable {s t : System} {hand : Hand}

/-! ## What the session does to the tables -/

/-- Nothing is added to the tables, and frames and variables are dropped only with the tasks for
that. -/
structure Drops (s t : System) : Prop where
  events : ∀ thread event, t.registries.events.get? thread = some event →
    s.registries.events.get? thread = some event
  frames : t.registries.frames = s.registries.frames ∨
    t.registries.frames = {} ∧ s.session.work.head? = some .purgeFrames
  locals : t.registries.locals = s.registries.locals ∨
    t.registries.locals = {} ∧ s.session.work.head? = some .purgeVariables

theorem Drops.of_eq (h : t.registries = s.registries) : Drops s t where
  events _ _ hget := h ▸ hget
  frames := .inl (h ▸ rfl)
  locals := .inl (h ▸ rfl)

theorem Drops.thins (h : Drops s t) : Thins s.registries t.registries :=
  ⟨h.events, h.frames.imp_right And.left, h.locals.imp_right And.left⟩

theorem registries_sent (s : System) (rest : List Task) (outcome : Except Error Unit × Outbox) :
    (s.sent rest outcome).registries = s.registries := by
  obtain ⟨_ | _, _⟩ := outcome <;> rfl

theorem drops_perform {task : Task} {rest : List Task} (hwork : s.session.work = task :: rest) :
    Drops s (s.perform rest task) := by
  cases task with
  | send | fail => exact .of_eq (registries_sent s rest _)
  | start =>
    rcases perform_start s rest with ⟨hnext, -⟩ | ⟨-, -, hnext⟩ <;> rw [hnext] <;> exact .of_eq rfl
  | cancel | findScopes | findVariables | resume => exact .of_eq rfl
  | findStop | findFrames | decide =>
    refine .of_eq ?_
    unfold System.perform
    dsimp only
    split <;> rfl
  | farewell =>
    obtain ⟨problems, hfarewell⟩ := s.farewell_eq rest
    exact .of_eq (hfarewell ▸ rfl)
  | close =>
    obtain ⟨decoder, problems, hclose⟩ := s.close_eq
    refine .of_eq ?_
    rw [System.perform, hclose]
  | purgeEvents => exact ⟨fun _ _ hget => (by cases hget), .inl rfl, .inl rfl⟩
  | purgeFrames => exact ⟨fun _ _ => id, .inr ⟨rfl, hwork ▸ rfl⟩, .inl rfl⟩
  | purgeVariables => exact ⟨fun _ _ => id, .inl rfl, .inr ⟨rfl, hwork ▸ rfl⟩⟩
  | release request arguments =>
    have hreleased := s.registries.events.get?_release arguments.threadId
    rw [System.perform]
    split
    · exact .of_eq rfl
    · rename_i event events heq
      rw [heq] at hreleased
      refine ⟨fun thread found hget => ?_, .inl rfl, .inl rfl⟩
      have hfound := (hreleased thread).symm.trans hget
      split at hfound
      · cases hfound
      · exact hfound

theorem drops_session (hstep : s.session? = some t) : Drops s t := by
  have hstep := System.sessionStep hstep
  generalize s.sessionHappenings = more at hstep
  cases hstep with
  | performs hwork => exact drops_perform hwork
  | hears _ _ hreceive =>
    have hheard := System.heard hreceive
    generalize s.hearing = more at hheard
    cases hheard <;> exact .of_eq rfl

/-- Only the session and the pump touch the tables. -/
theorem registries_eq_of_move {move : Move} (hmove : s.move? move = some t)
    (hsession : move ≠ .step .session) (hpump : move ≠ .step .pump) :
    t.registries = s.registries := by
  cases System.moved hmove with
  | session => exact absurd rfl hsession
  | pump => exact absurd rfl hpump
  | engine hkept => exact hkept.registries_eq
  | client => rfl

/-- Only the pump puts something into the tables. -/
theorem drops_move {move : Move} (hmove : s.move? move = some t) (hnot : move ≠ .step .pump) :
    Drops s t := by
  by_cases hsession : move = .step .session
  · subst hsession
    exact drops_session hmove
  · exact .of_eq (registries_eq_of_move hmove hsession hnot)

/-- Only the pump takes stops and puts them into the table. -/
theorem records_eq_nil {move : Move} (hnot : move ≠ .step .pump) :
    takenStops (s.happenings move) = [] ∧ recordeds (s.happenings move) = [] := by
  cases move with
  | deliver | hangUp => exact ⟨rfl, rfl⟩
  | report stop =>
    exact records_of_isBy (isBy_engine (System.reporting_isOfEngine s stop)) Actor.noConfusion
  | step actor =>
    exact records_of_isBy (System.happenings_isBy s actor) fun heq => hnot (heq ▸ rfl)

/-! ## The order of the stops -/

theorem takenStops_eq (log : List Happening) :
    takenStops log = (takens log).filterMap Item.stop? := by
  rw [takenStops, takens, List.filterMap_filterMap]
  refine List.filterMap_congr fun x _ => ?_
  cases x <;> rfl

/-- The pump takes the stops in the order of their channels. -/
theorem takenStops_play (script : Script) (decoder : Framing.Decoder) (outbox : Outbox)
    (moves : List Move) :
    (takenStops (System.play moves (.starting script decoder outbox)).1).Pairwise (·.2 < ·.2) := by
  have hnumbered := channelsOf_play script decoder outbox moves
  have hforwards := forwards_play script decoder outbox moves
  generalize System.play moves (.starting script decoder outbox) = run at *
  rw [hforwards.queued, channelsOf_append, channelsOf, ← takenStops_eq] at hnumbered
  have hordered := hnumbered ▸ List.pairwise_lt_range
  exact List.pairwise_map.mp (List.pairwise_append.mp hordered).1

end Step

/-! ## The stops in the table -/

/-- The stop was put into the table before, maybe with its frames. -/
def Known (log : List Happening) (event : StopEvent) : Prop :=
  ∃ before ∈ recordeds log, before.thread = event.thread ∧ before.resume = event.resume

/-- What is in the table, and what the pump read from it, are stops that the pump took and kept. -/
structure Kept (log : List Happening) (hand : Hand) (done : List (DebugStop × Channel))
    (g : Registries) : Prop where
  taken_eq : takenStops log = done ++ hand.stop?.toList
  recorded : ∀ event ∈ recordeds log,
    ∃ report, (report, event.resume) ∈ done ∧ report.thread = event.thread
  live : ∀ thread event, g.events.get? thread = some event →
    event.thread = thread ∧ Known log event
  read : ∀ event, hand.read? = some event → event.frameIds = [] ∧ Known log event ∧
    ∀ found, g.events.get? event.thread = some found → found.resume = event.resume

section Kept

variable {log more : List Happening} {hand hand' : Hand} {done : List (DebugStop × Channel)}
  {g g' : Registries}

theorem Known.append {event : StopEvent} (h : Known log event) (more : List Happening) :
    Known (log ++ more) event := by
  obtain ⟨before, hmem, hsame⟩ := h
  refine ⟨before, ?_, hsame⟩
  rw [recordeds_append]
  exact List.mem_append_left _ hmem

theorem known_of_recorded (log : List Happening) (event : StopEvent) :
    Known (log ++ [Happening.recorded event]) event := by
  refine ⟨event, ?_, rfl, rfl⟩
  rw [recordeds_append]
  exact List.mem_append_right _ List.mem_cons_self

/-- In the beginning the table is empty. -/
theorem Kept.starting : Kept [] .none [] {} where
  taken_eq := rfl
  recorded := by simp [recordeds]
  live thread event hget := nomatch hget
  read event hevent := nomatch hevent

/-- The stop that the pump works on comes after those that were put into the table. -/
theorem Kept.lt (h : Kept log hand done g) (hordered : (takenStops log).Pairwise (·.2 < ·.2))
    {report : DebugStop} {c : Channel} (hstop : hand.stop? = some (report, c)) :
    ∀ event ∈ recordeds log, event.resume < c := by
  intro event hmem
  obtain ⟨stop, hdone, -⟩ := h.recorded event hmem
  rw [h.taken_eq, hstop] at hordered
  exact (List.pairwise_append.mp hordered).2.2 _ hdone _ List.mem_cons_self

/-- A step in which the pump reads nothing and puts nothing into the table. -/
theorem Kept.still (h : Kept log hand done g) (htaken : takenStops more = [])
    (hrecorded : recordeds more = []) (hstop : hand'.stop? = hand.stop?)
    (hread : ∀ event, hand'.read? = some event → hand.read? = some event)
    (hevents : ∀ thread event, g'.events.get? thread = some event →
      g.events.get? thread = some event) : Kept (log ++ more) hand' done g' where
  taken_eq := by rw [takenStops_append, htaken, List.append_nil, hstop, h.taken_eq]
  recorded := by
    rw [recordeds_append, hrecorded, List.append_nil]
    exact h.recorded
  live thread event hget := by
    obtain ⟨hthread, hknown⟩ := h.live thread event (hevents thread event hget)
    exact ⟨hthread, hknown.append more⟩
  read event hevent := by
    obtain ⟨hids, hknown, hfound⟩ := h.read event (hread event hevent)
    exact ⟨hids, hknown.append more, fun found hget => hfound found (hevents _ _ hget)⟩

/-- A stop is put into the table. -/
theorem Kept.records {event : StopEvent} {kept : List (DebugStop × Channel)}
    (h : Kept log hand done g) (hread : hand'.read? = none)
    (htaken : done ++ hand.stop?.toList = done ++ kept ++ hand'.stop?.toList)
    (hevent : ∃ report, (report, event.resume) ∈ done ++ kept ∧ report.thread = event.thread)
    (hevents : g'.events = (g.events.retain event.thread event).2) :
    Kept (log ++ [Happening.recorded event]) hand' (done ++ kept) g' where
  taken_eq := by
    rw [takenStops_append, h.taken_eq, htaken]
    exact List.append_nil _
  recorded := by
    rw [recordeds_append]
    refine List.forall_mem_append.mpr ⟨fun before hmem => ?_, List.forall_mem_singleton.mpr hevent⟩
    obtain ⟨report, hdone, hthread⟩ := h.recorded before hmem
    exact ⟨report, List.mem_append_left _ hdone, hthread⟩
  live thread found hget := by
    rw [hevents, ThreadTable.get?_retain] at hget
    split at hget
    · rename_i hthread
      obtain rfl := Option.some.inj hget
      exact ⟨hthread.symm, known_of_recorded log event⟩
    · obtain ⟨hthread, hknown⟩ := h.live thread found hget
      exact ⟨hthread, hknown.append _⟩
  read found hfound := nomatch hread.symm.trans hfound

theorem Kept.pump (h : Kept log hand done g) (hstep : Records hand g more hand' g') :
    ∃ done', Kept (log ++ more) hand' done' g' := by
  cases hstep with
  | idle htaken hrecorded hthins =>
    exact ⟨done, h.still htaken hrecorded rfl (fun _ hevent => nomatch hevent) hthins.events⟩
  | @takes _ report c =>
    refine ⟨done, ?_, ?_, ?_, fun _ hevent => nomatch hevent⟩
    · rw [takenStops_append, h.taken_eq]
      exact congrArg (· ++ [(report, c)]) (List.append_nil done)
    · rw [recordeds_append]
      exact (List.append_nil (recordeds log)).symm ▸ h.recorded
    · intro thread event hget
      obtain ⟨hthread, hknown⟩ := h.live thread event hget
      exact ⟨hthread, hknown.append _⟩
  | purgesFrames | purgesLocals | addsScope | addsFrame | lists =>
    exact ⟨done, h.still rfl rfl rfl (fun _ hevent => nomatch hevent) fun _ _ => id⟩
  | finds | misses =>
    exact ⟨done, h.still rfl rfl (Hand.stop?_clear _ _ _) (by simp) fun _ _ => id⟩
  | @reads _ report c thread todo event hget =>
    obtain ⟨hthread, hknown⟩ := h.live thread event hget
    have hsame : Kept (log ++ []) (.reading report c thread todo) done g :=
      h.still rfl rfl rfl (fun _ => id) fun _ _ => id
    refine ⟨done, hsame.taken_eq, hsame.recorded, hsame.live, fun found hfound => ?_⟩
    obtain rfl := Option.some.inj hfound
    refine ⟨rfl, Known.append hknown [], fun other hother => ?_⟩
    rw [hthread] at hother
    have hsame : other = event := Option.some.inj (hother.symm.trans hget)
    rw [hsame]
  | @writes _ report c event todo =>
    obtain ⟨-, ⟨before, hmem, hthread, hresume⟩, -⟩ := h.read event rfl
    obtain ⟨stop, hdone, hstop⟩ := h.recorded before hmem
    refine ⟨done ++ [], h.records (by simp) ?_ ⟨stop, ?_, ?_⟩ rfl⟩
    · rw [List.append_nil, Hand.stop?_clear]
      rfl
    · rw [List.append_nil, ← hresume]
      exact hdone
    · exact hstop.trans hthread
  | @keeps _ report c ids =>
    refine ⟨done ++ [(report, c)], h.records rfl (by simp [Hand.stop?]) ⟨report, ?_, rfl⟩ rfl⟩
    exact List.mem_append_right _ List.mem_cons_self

end Kept

/-- In every run the pump has a stop in hand, or none, and the table holds stops that were taken. -/
theorem kept_play (script : Script) (decoder : Framing.Decoder) (outbox : Outbox)
    (moves : List Move) :
    ∃ hand done,
      InHand hand (System.play moves (.starting script decoder outbox)).2.pump ∧
        Kept (System.play moves (.starting script decoder outbox)).1 hand done
          (System.play moves (.starting script decoder outbox)).2.registries := by
  refine System.play_induction
    (P := fun log s => ∃ hand done, InHand hand s.pump ∧ Kept log hand done s.registries) ?_ ?_ moves
  · exact ⟨.none, [], .idle (by simp [System.starting]), .starting⟩
  · rintro log s move t ⟨hand, done, hinHand, hkept⟩ hmove
    by_cases hpump : move = .step .pump
    · subst hpump
      obtain ⟨hand', hnext, hrecords⟩ := records_pump hinHand hmove
      obtain ⟨done', hkept'⟩ := hkept.pump hrecords
      exact ⟨hand', done', hnext, hkept'⟩
    · obtain ⟨htaken, hrecorded⟩ := records_eq_nil (s := s) hpump
      have hsame := (pump_of_move hmove hpump).1
      refine ⟨hand, done, hsame ▸ hinHand, ?_⟩
      exact hkept.still htaken hrecorded rfl (fun _ => id) (drops_move hmove hpump).events

end DebugAdapter.Evaluation
