import DebugAdapter.Proofs.Evaluation.Delivery

/-! # What becomes of what an evaluation produces

The queue gets what the program produces, in the order of the program, and in between whatever stops
are reported beside the evaluation. That the evaluation is over is said once. A thread that outlives
the evaluation may still report stops after that. The pump is done with the items in their order. -/

namespace DebugAdapter.Evaluation

open Debuggee Protocol Session

/-! ## The last item -/

/-- Whether the evaluation has returned. -/
def EngineThread.isOver : EngineThread → Bool
  | .finishing _ | .ended => true
  | _ => false

/-- No stop is reported after the evaluation has returned. -/
def Timely (run : List Transition) : Prop :=
  ∀ x ∈ run, ∀ stop, x.move = .report stop → x.before.engine.isOver = false

section Last

variable {s t : System} {log : List Happening}

/-- The evaluation says once that it is over. -/
theorem Producing.once (h : Producing log s) (hanswers : Consistent (answer? log) log)
    {front back : List Item} (hsplit : produceds log = front ++ .terminated :: back) :
    .terminated ∉ front := by
  intro hmem
  -- a second one would not be the last that the evaluation has to say
  obtain ⟨first, second, rfl⟩ := List.append_of_mem hmem
  rw [List.append_assoc, List.cons_append] at hsplit
  exact absurd (h.finished hanswers hsplit).1
    (List.append_ne_nil_of_right_ne_nil _ (List.cons_ne_nil _ _))

/-- Only stops come after that. -/
theorem Producing.only_stops (h : Producing log s) (hanswers : Consistent (answer? log) log)
    {front back : List Item} (hsplit : enqueueds log = front ++ .terminated :: back) :
    .terminated ∉ front ∧ ∀ item ∈ back, item.stop? ≠ none := by
  obtain ⟨before, after, hproduced, hfront, hback⟩ := produceds_of_terminated hsplit
  refine ⟨fun hmem => h.once hanswers hproduced (hfront hmem), fun item hitem hplain => ?_⟩
  have hmem := hback item hitem hplain
  rw [(h.finished hanswers hproduced).1] at hmem
  exact absurd hmem List.not_mem_nil

/-- After it was said that the evaluation is over, every report is late. -/
theorem Producing.late (h : Producing log s) (hanswers : Consistent (answer? log) log)
    {front back : List Item} (hsplit : enqueueds log = front ++ .terminated :: back) :
    s.engine.isOver = true := by
  obtain ⟨before, after, hproduced, -, -⟩ := produceds_of_terminated hsplit
  rcases (h.finished hanswers hproduced).2 with hengine | hengine
  · rw [hengine]
    rfl
  · rw [hengine]
    rfl

/-- Only a late report puts an item behind the one that says that the evaluation is over. -/
theorem Producing.last_move (h : Producing log s) (hanswers : Consistent (answer? log) log)
    {move : Move} (h' : Producing (log ++ s.happenings move) t)
    (hanswers' : Consistent (answer? (log ++ s.happenings move)) (log ++ s.happenings move))
    (htimely : ∀ stop, move = .report stop → s.engine.isOver = false)
    (hlast : ∀ front back, enqueueds log = front ++ .terminated :: back → back = [])
    {front back : List Item}
    (hsplit : enqueueds (log ++ s.happenings move) = front ++ .terminated :: back) : back = [] := by
  rw [enqueueds_append] at hsplit
  by_cases hreport : ∃ stop, move = .report stop
  · obtain ⟨stop, rfl⟩ := hreport
    rw [System.happenings, System.reporting, if_pos h.received] at hsplit
    rcases append_eq_split hsplit with ⟨rest, -, hbefore⟩ | ⟨rest, -, hrest⟩
    · exact absurd ((htimely stop rfl).symm.trans (h.late hanswers hbefore)) Bool.false_ne_true
    · cases rest with
      | nil => cases hrest
      | cons item rest => exact absurd (List.cons.inj hrest).2.symm (by simp)
  · have hmore := enqueueds_eq_produceds
      (s.isReport_happenings fun stop heq => hreport ⟨stop, heq⟩)
    rcases append_eq_split hsplit with ⟨rest, rfl, hbefore⟩ | ⟨rest, -, hrest⟩
    · obtain ⟨before, after, hproduced, -, -⟩ := produceds_of_terminated hbefore
      have hwhole : produceds (log ++ s.happenings move) =
          before ++ .terminated :: (after ++ produceds (s.happenings move)) := by
        rw [produceds_append, hproduced, List.append_assoc, List.cons_append]
      have hnone := (List.append_eq_nil_iff.mp (h'.finished hanswers' hwhole).1).2
      rw [hlast _ _ hbefore, hmore, hnone, List.append_nil]
    · have hwhole : produceds (log ++ s.happenings move) =
          (produceds log ++ rest) ++ .terminated :: back := by
        rw [produceds_append, ← hmore, hrest, List.append_assoc]
      exact (h'.finished hanswers' hwhole).1

theorem Timely.of_append {run : List Transition} {x : Transition} (h : Timely (run ++ [x])) :
    Timely run ∧ ∀ stop, x.move = .report stop → x.before.engine.isOver = false :=
  ⟨fun y hy => h y (List.mem_append_left _ hy),
    h x (List.mem_append_right _ List.mem_cons_self)⟩

/-- Without late reports the item that says that the evaluation is over is the last one. -/
theorem last_play (script : Script) (decoder : Framing.Decoder) (outbox : Outbox)
    (moves : List Move)
    (htimely : Timely (System.transitions moves (.starting script decoder outbox)))
    {front back : List Item}
    (hsplit : enqueueds (logOf (System.transitions moves (.starting script decoder outbox))) =
      front ++ .terminated :: back) : back = [] := by
  refine (System.transitions_induction (P := fun run t => Producing (logOf run) t ∧
    Settling (logOf run) t ∧ (Timely run → ∀ front back,
      enqueueds (logOf run) = front ++ .terminated :: back → back = [])) ?_ ?_ moves).2.2
    htimely front back hsplit
  · refine ⟨producing_play script decoder outbox [], settling_play script decoder outbox [], ?_⟩
    intro _ front back hnil
    exact absurd hnil.symm (List.append_ne_nil_of_right_ne_nil _ (List.cons_ne_nil _ _))
  · rintro run t move u ⟨hproducing, hsettling, hlast⟩ hmove
    rw [logOf_append, logOf_singleton, Transition.happenings]
    have hproducing' := hproducing.move hmove
    have hsettling' := hsettling.move hmove
    refine ⟨hproducing', hsettling', fun htimely front back hsplit => ?_⟩
    obtain ⟨hbefore, hnow⟩ := htimely.of_append
    exact hproducing.last_move hsettling.consistent hproducing' hsettling'.consistent hnow
      (hlast hbefore) hsplit

end Last

/-! ## Reports beside the evaluation -/

/-- What a transition puts into the queue comes from the evaluation itself, or it is a stop that was
reported beside it. -/
def Transition.Adds (x : Transition) : Prop :=
  ((∀ stop, x.move ≠ .report stop) ∧ enqueueds x.happenings = produceds x.happenings) ∨
    ∃ stop, x.move = .report stop ∧ produceds x.happenings = [] ∧
      enqueueds x.happenings = [.stopped stop x.before.channels]

theorem adds_of_received {x : Transition} (hreceived : x.before.queue.received = true) : x.Adds := by
  by_cases hreport : ∃ stop, x.move = .report stop
  · obtain ⟨stop, hstop⟩ := hreport
    refine .inr ⟨stop, hstop, ?_⟩
    rw [Transition.happenings, hstop, System.happenings, System.reporting, if_pos hreceived]
    exact ⟨rfl, rfl⟩
  · have hnot : ∀ stop, x.move ≠ .report stop := fun stop heq => hreport ⟨stop, heq⟩
    exact .inl ⟨hnot, enqueueds_eq_produceds (x.before.isReport_happenings hnot)⟩

/-! ## Runs -/

/-- What becomes of what an evaluation produces. -/
structure Relayed (script : Script) (start : Outbox) (run : List Transition) (s : System) :
    Prop where
  /-- The evaluation itself puts into the queue what the program has produced so far, in order. -/
  produced : produceds (logOf run) <+:
    script.course (answer? (logOf run)) (channelOf (logOf run)) 0
  /-- Everything else in the queue are the stops that were reported beside the evaluation, one for
  each report. -/
  beside : ∀ x ∈ run, x.Adds
  /-- Every stop waits on a channel of its own: they are numbered in the order of the reports. -/
  numbered : channelsOf (enqueueds (logOf run)) = List.range s.channels
  /-- When the engine is done, the queue has got all that the program produces, and that the
  evaluation is over. -/
  complete : s.engine = .ended →
    produceds (logOf run) = script.course (answer? (logOf run)) (channelOf (logOf run)) 0 ∧
      ∃ front, produceds (logOf run) = front ++ [.terminated] ∧ .terminated ∉ front
  /-- That the evaluation is over is said once. Only stops can come after that, and nothing at all
  when no stop is reported after the evaluation has returned. -/
  last : ∀ front back, enqueueds (logOf run) = front ++ .terminated :: back →
    .terminated ∉ front ∧ (∀ item ∈ back, item.stop? ≠ none) ∧ (Timely run → back = [])
  /-- The pump is done with the items one by one and in order. What is left is in the queue, but for
  the one that it works on. -/
  passed : ∃ done pending,
    enqueueds (logOf run) = done ++ pending.toList ++ s.queue.items ∧
      (s.pump = [] → pending = none) ∧
      List.Forall₂ Settles done (run.filter Transition.settles)
  /-- The pump posts nothing else. -/
  only : ∀ x ∈ run, ∀ m result bytes, .posted .pump m result bytes ∈ x.happenings →
    x.settles = true
  /-- The wire has the frames of the messages that got through, in order, and nothing else. -/
  carried : Carried start (sent (logOf run)) s.outbox

/-- What an evaluation produces is passed on in order, without loss and without repetition, whatever
the program and the client do, whatever is reported beside the evaluation and in whichever order the
threads make their steps. -/
theorem relayed_play (script : Script) (decoder : Framing.Decoder) {outbox : Outbox}
    (moves : List Move)
    (hreliable : Reliable outbox (System.play moves (.starting script decoder outbox)).1) :
    Relayed script outbox (System.transitions moves (.starting script decoder outbox))
      (System.play moves (.starting script decoder outbox)).2 := by
  have hproducing := producing_play script decoder outbox moves
  have hanswers := (settling_play script decoder outbox moves).consistent
  have hcourse := hproducing.course _ _ hanswers (numbers_channelOf _)
  rw [script_play] at hcourse
  have hnumbered := channelsOf_play script decoder outbox moves
  have hcarried := (connected_play script decoder moves hreliable).carried
  rw [System.log_eq] at hproducing hanswers hcourse hnumbered hcarried
  refine ⟨⟨_, hcourse.symm⟩, ?_, hnumbered, ?_, ?_, ?_, ?_, hcarried⟩
  · intro x hx
    obtain ⟨front, back, hsplit⟩ := List.append_of_mem hx
    obtain ⟨first, -, -, -, hbefore, -⟩ := System.transitions_split hsplit
    exact adds_of_received (hbefore ▸ (producing_play script decoder outbox first).received)
  · intro hended
    obtain ⟨front, hfront⟩ := hproducing.ended hanswers hended
    rw [hended, EngineThread.course, List.append_nil] at hcourse
    exact ⟨hcourse.symm, front, hfront, hproducing.once hanswers hfront⟩
  · intro front back hsplit
    obtain ⟨honce, hstops⟩ := hproducing.only_stops hanswers hsplit
    exact ⟨honce, hstops, fun htimely => last_play script decoder outbox moves htimely hsplit⟩
  · obtain ⟨done, pending, htakens, hdone, hunderway⟩ :=
      relaying_play script decoder moves hreliable
    have hqueued := (forwards_play script decoder outbox moves).queued
    rw [System.log_eq, htakens] at hqueued
    refine ⟨done, pending, hqueued, fun hidle => ?_, hdone⟩
    rw [hidle] at hunderway
    cases hunderway
    rfl
  · intro x _ m result bytes hposted
    obtain ⟨rest, hpump, -⟩ := pump_of_posted hposted
    have hmove : x.move = .step .pump := by
      rw [Transition.happenings] at hposted
      cases hmove : x.move with
      | step actor =>
        rw [hmove] at hposted
        exact congrArg _ (System.happenings_isBy x.before actor _ hposted).symm
      | report stop =>
        rw [hmove] at hposted
        exact (System.reporting_isOfEngine x.before stop _ hposted).elim
      | deliver | hangUp =>
        rw [hmove] at hposted
        exact absurd hposted List.not_mem_nil
    simp [Transition.settles, hmove, hpump]

/-- A program that says hello and stops. It fails with a code when it is not resumed. -/
def greetAndStop : Script :=
  .write .stdout [104, 105] (.write .stderr [] (.stop { thread := 1, reason := "entry" }
    (.finish (.success 0)) (.finish (.failure (.exit 3)))))

/-- Another thread stops before the program does. The client hangs up before the pump gets to the
stops, and the connection is closed before the pump gets to the code. In the end the other thread
stops once more. -/
def cutShort : List Move :=
  turns [(5, .session), (2, .engine)] ++ .report { thread := 2, reason := "pause" } ::
    turns [(1, .engine), (2, .pump)] ++ .hangUp ::
    turns [(9, .session), (20, .pump), (6, .engine), (2, .pump), (1, .session), (6, .pump)] ++
    [.report { thread := 2, reason := "pause" }]

/-- What happens then, and what comes of it. -/
def cutShortRun : List Happening × System :=
  System.play cutShort (.starting greetAndStop inquirer {})

theorem relayed_play_cutShort :
    Reliable {} cutShortRun.1 ∧ cutShortRun.2.engine = .ended ∧
      enqueueds cutShortRun.1 = [.output .stdout "hi", .stopped { thread := 2, reason := "pause" } 0,
        .stopped { thread := 1, reason := "entry" } 1,
        .output .stderr "program exited with code 3\n", .exited 3, .terminated,
        .stopped { thread := 2, reason := "pause" } 2] ∧
      Relayed greetAndStop {} (System.transitions cutShort (.starting greetAndStop inquirer {}))
        cutShortRun.2 := by
  have hrun : Outbox.seq {} + (sent cutShortRun.1).length + 1 < 2 ^ 63 ∧
      cutShortRun.2.engine = .ended ∧
      enqueueds cutShortRun.1 = [.output .stdout "hi", .stopped { thread := 2, reason := "pause" } 0,
        .stopped { thread := 1, reason := "entry" } 1,
        .output .stderr "program exited with code 3\n", .exited 3, .terminated,
        .stopped { thread := 2, reason := "pause" } 2] := by
    decide +kernel
  obtain ⟨hroom, hended, hitems⟩ := hrun
  have hreliable : Reliable {} cutShortRun.1 := ⟨.default, hroom⟩
  exact ⟨hreliable, hended, hitems, relayed_play greetAndStop inquirer cutShort hreliable⟩

end DebugAdapter.Evaluation
