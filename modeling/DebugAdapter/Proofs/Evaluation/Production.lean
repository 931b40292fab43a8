import DebugAdapter.Proofs.Evaluation.Production.Course

/-! # What an evaluation produces

In every run the evaluation puts the course of its program into the queue, with the channels that its
stops were given. Threads beside the evaluation may put stops in between, and also after that. -/

namespace DebugAdapter.Evaluation

open Debuggee Protocol Session

/-! ## Runs -/

/-- The stops that are over ended as told. -/
def Consistent (goesOn : Channel → Option Bool) (log : List Happening) : Prop :=
  ∀ c resumes, .returned c resumes ∈ log → goesOn c = some resumes

theorem Consistent.of_append {goesOn : Channel → Option Bool} {log more : List Happening}
    (h : Consistent goesOn (log ++ more)) : Consistent goesOn log :=
  fun c resumes hmem => h c resumes (List.mem_append_left _ hmem)

/-- What was put into the queue so far, and what will follow, is the course of the program. -/
structure Producing (log : List Happening) (s : System) : Prop where
  dormant : s.session.started = false → Dormant s
  received : s.queue.received = true
  course : ∀ goesOn channel, Consistent goesOn log → Numbers channel (channelsOf (produceds log)) →
    s.script.course goesOn channel 0 = produceds log ++
      s.engine.course goesOn channel s.script (channelsOf (produceds log)).length

section Step

variable {s t : System} {log : List Happening}

theorem received_push (s : System) (item : Item) :
    (s.queue.push item).2.received = s.queue.received := by
  unfold Queue.push
  split <;> rfl

/-- There is always somebody who takes what is put into the queue, so the engine does not end the
session by itself. -/
theorem received_engine (hstep : s.engine? = some t) (h : s.queue.received = true) :
    t.queue.received = true ∧ t.cancelled = s.cancelled := by
  have hpush : ∀ item, (s.queue.push item).2.received = true := fun item =>
    (received_push s item).trans h
  have hstep := System.engineStep hstep
  generalize s.engineHappenings = more at hstep
  cases hstep with
  | writes | stops | stopsAside => exact ⟨hpush _, rfl⟩
  | @offers item items lost _ hlost =>
    obtain rfl : lost = false :=
      Bool.eq_false_iff.mpr fun heq => nomatch h.symm.trans (hlost.mp heq).2
    exact ⟨hpush item, Bool.or_false _⟩
  | _ => exact ⟨h, rfl⟩

theorem received_move {move : Move} (hmove : s.move? move = some t)
    (h : s.queue.received = true) : t.queue.received = true := by
  match move with
  | .step .session => exact (System.keptBySession hmove).queue_eq ▸ h
  | .step .pump => exact (received_pump hmove).trans h
  | .step .engine => exact (received_engine hmove h).1
  | .step (.aside c) =>
    obtain ⟨-, goesOn, -, rfl⟩ := System.aside_eq hmove
    exact h
  | .report stop =>
    obtain ⟨-, rfl⟩ := System.reportAside_eq hmove
    exact (received_push s _).trans h
  | .deliver _ | .hangUp =>
    obtain rfl := Option.some.inj hmove
    exact h

/-- One step of the engine puts the next part of the course into the queue. -/
theorem course_engine (hreceived : s.queue.received = true) (hstep : s.engine? = some t)
    {goesOn : Channel → Option Bool} (hgoesOn : Consistent goesOn s.engineHappenings)
    {channel : Nat → Channel} {k : Nat}
    (hchannel : Numbers (fun i => channel (k + i)) (channelsOf (produceds s.engineHappenings))) :
    s.engine.course goesOn channel s.script k =
      produceds s.engineHappenings ++ t.engine.course goesOn channel t.script
        (k + (channelsOf (produceds s.engineHappenings)).length) := by
  have hproducing : ∀ item, produceds (s.enqueuing item) = [item] := by
    intro item
    rw [System.enqueuing, if_pos hreceived]
    rfl
  have hstep := System.engineStep hstep
  generalize s.engineHappenings = more at hstep hgoesOn hchannel
  cases hstep with
  | @finishes outcome hengine =>
    rw [hengine]
    exact outcome.items_eq_report.symm
  | writesNothing hengine | seesEnd hengine | ends hengine =>
    rw [hengine]
    rfl
  | writes hengine | offers hengine =>
    rw [hengine, hproducing]
    rfl
  | stops hengine | stopsAside hengine =>
    rw [hproducing] at hchannel
    have hthis : channel k = s.channels := hchannel 0 s.channels rfl
    rw [hengine, hproducing, EngineThread.course, Script.course, hthis]
    rfl
  | @returns c resumed refused resumes hengine =>
    rw [hengine]
    simp only [EngineThread.course, hgoesOn c resumes List.mem_cons_self]
    cases resumes <;> rfl

theorem Producing.move {move : Move} (h : Producing log s) (hmove : s.move? move = some t) :
    Producing (log ++ s.happenings move) t := by
  refine ⟨Dormant.move h.dormant hmove, received_move hmove h.received,
    fun goesOn channel hgoesOn hchannel => ?_⟩
  rw [produceds_append, channelsOf_append] at hchannel
  obtain ⟨hchannels, hnext⟩ := hchannel.of_append
  have hbefore := h.course goesOn channel hgoesOn.of_append hchannels
  have hkeep : t.script = s.script → produceds (s.happenings move) = [] →
      (∀ k, t.engine.course goesOn channel s.script k = s.engine.course goesOn channel s.script k) →
      t.script.course goesOn channel 0 = produceds (log ++ s.happenings move) ++
        t.engine.course goesOn channel t.script
          (channelsOf (produceds (log ++ s.happenings move))).length := by
    intro hscript hnone hcourse
    rw [produceds_append, hnone, List.append_nil, hscript, hcourse]
    exact hbefore
  match move with
  | .step .session =>
    have hkept := System.keptBySession hmove
    refine hkeep hkept.script_eq
      (produceds_eq_nil (enqueueds_eq_nil (System.happenings_isBy s .session) (.inl rfl)))
      fun k => ?_
    cases commences_session hmove with
    | same hengine => rw [hengine]
    | starts hstarted _ _ hengine =>
      rw [hengine, (h.dormant hstarted).engine]
      rfl
  | .step .pump =>
    have hkept := System.keptByPump hmove
    refine hkeep hkept.script_eq
      (produceds_eq_nil (enqueueds_eq_nil (System.happenings_isBy s .pump) (.inr rfl))) fun k => ?_
    rw [hkept.engine_eq]
  | .step .engine =>
    have hkept := System.keptByEngine hmove
    have hmore : Consistent goesOn s.engineHappenings :=
      fun c resumes hmem => hgoesOn c resumes (List.mem_append_right _ hmem)
    rw [hkept.script_eq, hbefore, course_engine h.received hmove hmore hnext, hkept.script_eq,
      System.happenings, produceds_append, channelsOf_append, List.length_append, List.append_assoc]
  | .step (.aside c) =>
    have hmore : produceds (s.happenings (.step (.aside c))) = [] := by
      rw [System.happenings, System.returning]
      cases s.verdict? c <;> rfl
    refine hkeep (System.keptByAside hmove).script_eq hmore fun k => ?_
    obtain ⟨-, resumes, -, rfl⟩ := System.aside_eq hmove
    rfl
  | .report stop =>
    have hmore : produceds (s.happenings (.report stop)) = [] := by
      rw [System.happenings, System.reporting]
      split <;> rfl
    refine hkeep (System.keptByReport hmove).script_eq hmore fun k => ?_
    obtain ⟨-, rfl⟩ := System.reportAside_eq hmove
    rfl
  | .deliver _ | .hangUp =>
    obtain rfl := Option.some.inj hmove
    exact hkeep rfl rfl fun _ => rfl

theorem producing_play (script : Script) (decoder : Framing.Decoder) (outbox : Outbox)
    (moves : List Move) :
    Producing (System.play moves (.starting script decoder outbox)).1
      (System.play moves (.starting script decoder outbox)).2 := by
  refine System.play_induction (P := Producing) ?_ (fun _ _ _ _ h => h.move) moves
  exact ⟨fun _ => ⟨rfl, rfl, rfl, rfl, rfl⟩, rfl, fun _ _ _ _ => rfl⟩

end Step

/-! ## The channels of the stops -/

section Channels

variable {s t : System} {log : List Happening}

/-- A move puts no stop into the queue, or one under the next channel. -/
def Numbering (s t : System) (more : List Happening) : Prop :=
  (t.channels = s.channels ∧ channelsOf (enqueueds more) = []) ∨
    (t.channels = s.channels + 1 ∧ channelsOf (enqueueds more) = [s.channels])

theorem Numbering.of_silent {more : List Happening} (hchannels : t.channels = s.channels)
    (hmore : enqueueds more = []) : Numbering s t more := by
  left
  rw [hmore]
  exact ⟨hchannels, rfl⟩

theorem numbering_engine (hplain : Plain s) (hreceived : s.queue.received = true)
    (hstep : s.engine? = some t) : Numbering s t s.engineHappenings := by
  have hstep := System.engineStep hstep
  generalize s.engineHappenings = more at hstep
  cases hstep with
  | finishes | writesNothing | seesEnd | returns | ends => exact .of_silent rfl rfl
  | writes =>
    rw [System.enqueuing, if_pos hreceived]
    exact .inl ⟨rfl, rfl⟩
  | stops | stopsAside =>
    rw [System.enqueuing, if_pos hreceived]
    exact .inr ⟨rfl, rfl⟩
  | @offers item items lost hengine =>
    have hitem : item.stop? = none := hplain _ hengine item List.mem_cons_self
    have hnone : channelsOf [item] = [] := by rw [channelsOf, List.filterMap_cons_none hitem]; rfl
    rw [System.enqueuing, if_pos hreceived]
    exact .inl ⟨rfl, hnone⟩

theorem numbering_move {move : Move} (hplain : Plain s) (hreceived : s.queue.received = true)
    (hmove : s.move? move = some t) : Numbering s t (s.happenings move) := by
  match move with
  | .step .session =>
    exact .of_silent (System.keptBySession hmove).channels_eq
      (enqueueds_eq_nil (System.happenings_isBy s .session) (.inl rfl))
  | .step .pump =>
    exact .of_silent (System.keptByPump hmove).channels_eq
      (enqueueds_eq_nil (System.happenings_isBy s .pump) (.inr rfl))
  | .step .engine => exact numbering_engine hplain hreceived hmove
  | .step (.aside c) =>
    obtain ⟨-, goesOn, hverdict, rfl⟩ := System.aside_eq hmove
    rw [System.happenings, System.returning, hverdict]
    exact .of_silent rfl rfl
  | .report stop =>
    obtain ⟨-, rfl⟩ := System.reportAside_eq hmove
    rw [System.happenings, System.reporting, if_pos hreceived]
    exact .inr ⟨rfl, rfl⟩
  | .deliver _ | .hangUp =>
    obtain rfl := Option.some.inj hmove
    exact .of_silent rfl rfl

/-- The stops get their channels in the order in which they are reported. -/
theorem channelsOf_play (script : Script) (decoder : Framing.Decoder) (outbox : Outbox)
    (moves : List Move) :
    channelsOf (enqueueds (System.play moves (.starting script decoder outbox)).1) =
      List.range (System.play moves (.starting script decoder outbox)).2.channels := by
  refine System.play_induction_last
    (P := fun log t => channelsOf (enqueueds log) = List.range t.channels) rfl ?_ moves
  intro before move t h hmove
  have hplain := (settling_play script decoder outbox before).plain
  have hreceived := (producing_play script decoder outbox before).received
  rw [enqueueds_append, channelsOf_append, h]
  rcases numbering_move hplain hreceived hmove with ⟨hsame, hnone⟩ | ⟨hnext, hone⟩
  · rw [hnone, hsame, List.append_nil]
  · rw [hone, hnext, List.range_succ]

end Channels

/-! ## How the stops ended -/

/-- How the stop on a channel ended, if it did. -/
def answer? (log : List Happening) (c : Channel) : Option Bool := (returnsOn c log).head?

theorem mem_returnsOn {c : Channel} {goesOn : Bool} {log : List Happening} :
    goesOn ∈ returnsOn c log ↔ .returned c goesOn ∈ log := by
  rw [returnsOn, List.mem_filterMap]
  constructor
  · rintro ⟨x, hx, hreturns⟩
    cases x with
    | returned d resumes =>
      simp only [Happening.returnOn?, Option.ite_none_right_eq_some] at hreturns
      obtain ⟨rfl, hreturns⟩ := hreturns
      exact Option.some.inj hreturns ▸ hx
    | _ => cases hreturns
  · intro h
    exact ⟨_, h, if_pos rfl⟩

/-- A stop ends in one way. -/
theorem Settling.consistent {log : List Happening} {s : System} (h : Settling log s) :
    Consistent (answer? log) log := by
  intro c goesOn hreturned
  rw [answer?]
  cases hhead : (returnsOn c log).head? with
  | none =>
    rw [List.head?_eq_none_iff] at hhead
    exact absurd (mem_returnsOn.mpr hreturned) (hhead ▸ List.not_mem_nil)
  | some resumes =>
    have hfirst := mem_returnsOn.mp (List.mem_of_head? hhead)
    exact (h.returned c resumes hfirst).2.symm.trans (h.returned c goesOn hreturned).2

/-- The stops that have not ended yet are taken to be resumed. -/
def completed (log : List Happening) (c : Channel) : Option Bool := some ((answer? log c).getD true)

theorem completed_ne_none (log : List Happening) (c : Channel) : completed log c ≠ none :=
  Option.some_ne_none _

theorem Consistent.completed {log : List Happening} (h : Consistent (answer? log) log) :
    Consistent (completed log) log := by
  intro c goesOn hmem
  rw [Evaluation.completed, h c goesOn hmem]
  rfl

/-- What is left of the course when nothing follows. -/
theorem over_of_course {log : List Happening} {channel : Nat → Channel} {script : Script} {k : Nat}
    {engine : EngineThread} (h : engine.course (completed log) channel script k = []) :
    engine = .finishing [] ∨ engine = .ended := by
  have hsome : ∀ (script : Script) k, script.course (completed log) channel k ≠ [] := by
    intro script k hnil
    obtain ⟨front, hfront⟩ := course_of_total (completed_ne_none log) channel script k
    simp [hnil] at hfront
  cases engine with
  | idle => exact absurd h (hsome _ _)
  | running script => exact absurd h (hsome _ _)
  | waiting d resumed refused =>
    rw [EngineThread.course, completed] at h
    split at h
    · exact absurd h (hsome _ _)
    · exact absurd h (hsome _ _)
    · rename_i hnone
      exact nomatch hnone
  | finishing items => exact .inl (congrArg _ h)
  | ended => exact .inr rfl

/-- When it was said that the evaluation is over, that was the last that it had to say. -/
theorem Producing.finished {log : List Happening} {s : System} (h : Producing log s)
    (hanswers : Consistent (answer? log) log) {front back : List Item}
    (hsplit : produceds log = front ++ .terminated :: back) :
    back = [] ∧ (s.engine = .finishing [] ∨ s.engine = .ended) := by
  have hcourse := h.course _ _ hanswers.completed (numbers_channelOf log)
  rw [hsplit, List.append_assoc, List.cons_append] at hcourse
  obtain ⟨hback, hrest⟩ := List.append_eq_nil_iff.mp (last_course hcourse)
  exact ⟨hback, over_of_course hrest⟩

/-- When the engine is done, it has said that the evaluation is over. -/
theorem Producing.ended {log : List Happening} {s : System} (h : Producing log s)
    (hanswers : Consistent (answer? log) log) (hengine : s.engine = .ended) :
    ∃ front, produceds log = front ++ [Item.terminated] := by
  have hcourse := h.course _ _ hanswers.completed (numbers_channelOf log)
  obtain ⟨front, hfront⟩ := course_of_total (completed_ne_none log) (channelOf log) s.script 0
  rw [hengine, EngineThread.course, List.append_nil, hfront] at hcourse
  exact ⟨front, hcourse.symm⟩

end DebugAdapter.Evaluation
