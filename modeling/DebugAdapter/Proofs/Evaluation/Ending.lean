import DebugAdapter.Proofs.Evaluation.Ending.Launching

/-! # From the start of the evaluation to the end of the session

The session starts the evaluation at most once, and it looks at the context after every message. So
it takes up one more message at most when the client learns that the evaluation is over. -/

namespace DebugAdapter.Evaluation

open Debuggee Protocol Session

/-- What a session has to do when it has to end. -/
theorem concluding_play {s : System} (hagenda : Agenda s) (h : Concluding s) (moves : List Move) :
    Agenda (System.play moves s).2 ∧ Concluding (System.play moves s).2 ∧
      handleds (logOf (System.transitions moves s)) = [] := by
  refine System.transitions_induction
    (P := fun run t => Agenda t ∧ Concluding t ∧ handleds (logOf run) = []) ⟨hagenda, h, rfl⟩ ?_ moves
  intro run t move u ⟨hagenda, h, hnone⟩ hmove
  obtain ⟨hnext, hmore⟩ := h.move hagenda hmove
  refine ⟨hagenda.move hmove, hnext, ?_⟩
  rw [logOf_append, logOf_singleton, handleds_append, hnone]
  exact hmore

/-- What was started stays so. -/
theorem started_move {s t : System} {move : Move} (hmove : s.move? move = some t)
    (h : s.session.started = true) : t.session.started = true := by
  by_cases hsession : move = .step .session
  · subst hsession
    cases commences_session hmove with
    | same _ hsame => exact hsame.trans h
    | starts _ _ _ _ hnext => exact hnext
  · exact (idles_move hsession hmove).started_eq.trans h

/-- An engine that is not started does nothing, and only the session starts it. -/
theorem idle_move {s t : System} {move : Move} (hmove : s.move? move = some t)
    (hlaunch : Transition.launches ⟨s, move, t⟩ = false) (h : s.engine = .idle) :
    t.engine = .idle := by
  match move with
  | .step .session =>
    have hsame : ¬t.engine ≠ s.engine := fun hother =>
      absurd (launches_iff.mpr ⟨rfl, hother⟩) (by rw [hlaunch]; decide)
    exact (Classical.not_not.mp hsame).trans h
  | .step .pump => exact (System.keptByPump hmove).engine_eq.trans h
  | .step .engine =>
    rw [System.move?, System.step?, System.engine?, h] at hmove
    cases hmove
  | .step (.aside c) =>
    obtain ⟨-, goesOn, -, rfl⟩ := System.aside_eq hmove
    exact h
  | .report stop => exact absurd h (System.reportAside_eq hmove).1
  | .deliver _ | .hangUp =>
    obtain rfl := Option.some.inj hmove
    exact h

/-- The pump has nothing to post before the evaluation is started. -/
theorem Governed.started_of_posted {run : List Transition} {s : System} (h : Governed run s)
    {move : Move} {m : Message} {result : Except Error Unit} {bytes : Bytes}
    (hposted : .posted .pump m result bytes ∈ s.happenings move) : s.session.started = true := by
  obtain ⟨rest, hpump, -⟩ := pump_of_posted hposted
  cases hstarted : s.session.started with
  | true => rfl
  | false => exact nomatch hpump.symm.trans (h.dormant hstarted).pump

/-- After the context is done one more message is taken up at most. -/
structure Exhausted (run : List Transition) (s : System) : Prop where
  agenda : Agenda s
  cancelled : s.cancelled = true
  started : s.session.started = true
  handled : handleds (logOf run) = [] ∨ (handleds (logOf run)).length = 1 ∧ Concluding s

theorem Exhausted.move {run : List Transition} {s t : System} {move : Move} (h : Exhausted run s)
    (hmove : s.move? move = some t) : Exhausted (run ++ [⟨s, move, t⟩]) t := by
  obtain ⟨hagenda, hcancelled, hstarted, hhandled⟩ := h
  refine ⟨hagenda.move hmove, cancelled_move hmove hcancelled, started_move hmove hstarted, ?_⟩
  rw [logOf_append, logOf_singleton, handleds_append, Transition.happenings]
  rcases hhandled with hnone | ⟨hone, hlast⟩
  · rw [hnone, List.nil_append]
    cases hmore : handleds (s.happenings move) with
    | nil => exact .inl rfl
    | cons m rest =>
      obtain ⟨hlast, hsingle⟩ := Concluding.of_handled hagenda hmove
        (hmore ▸ List.mem_cons_self) (.inl ⟨hcancelled, hstarted⟩)
      exact .inr ⟨by rw [← hmore, hsingle]; rfl, hlast⟩
  · obtain ⟨hnext, hmore⟩ := hlast.move hagenda hmove
    rw [hmore, List.append_nil]
    exact .inr ⟨hone, hnext⟩

theorem exhausted_play {s : System} (h : Exhausted [] s) (moves : List Move) :
    Exhausted (System.transitions moves s) (System.play moves s).2 :=
  System.transitions_induction (P := Exhausted) h (fun _ _ _ _ h => h.move) moves

/-- Until its next step the session stays as it is. -/
theorem idles_find {moves : List Move} {s : System} {y : Transition}
    (h : (System.transitions moves s).find? (·.move = .step .session) = some y) :
    Idles s y.before ∧ y.before.session? = some y.after := by
  induction moves generalizing s with
  | nil => exact nomatch h
  | cons move moves ih =>
    rw [System.transitions] at h
    cases hmove : s.move? move with
    | none =>
      rw [hmove] at h
      exact ih h
    | some t =>
      rw [hmove] at h
      dsimp only at h
      by_cases hsession : move = .step .session
      · subst hsession
        obtain rfl : ⟨s, _, t⟩ = y := by simpa using h
        exact ⟨⟨rfl, rfl, rfl, rfl, id⟩, hmove⟩
      · rw [List.find?_cons_of_neg (by simpa using hsession)] at h
        have hidle := idles_move hsession hmove
        obtain ⟨hrest, hstep⟩ := ih h
        exact ⟨⟨hrest.state_eq.trans hidle.state_eq, hrest.work_eq.trans hidle.work_eq,
          hrest.held_eq.trans hidle.held_eq, hrest.started_eq.trans hidle.started_eq,
          fun hcancelled => hrest.cancelled (hidle.cancelled hcancelled)⟩, hstep⟩

theorem governed_play (script : Script) (decoder : Framing.Decoder) (outbox : Outbox)
    (moves : List Move) :
    Governed (System.transitions moves (.starting script decoder outbox))
      (System.play moves (.starting script decoder outbox)).2 := by
  refine System.transitions_induction (P := Governed) ?_ (fun _ _ _ _ h => h.move) moves
  exact ⟨.unopened (.inl rfl) (.inl rfl) rfl rfl, fun _ => ⟨rfl, rfl, rfl, rfl, rfl⟩, rfl,
    fun h => absurd h List.not_mem_nil, .inl List.not_mem_nil⟩

/-- The verdict on the request that started the evaluation is that the session goes on, even if the
context is done by then. -/
theorem Launch.proceeds {s t u v : System} (h : Launch s t) (hidle : Idles t u)
    (hstep : u.session? = some v) :
    u.session.work = [.decide false .proceed] ∧ v.session.state = .dispatching ∧
      v.session.work = [] := by
  have hwork := hidle.work_eq.trans h.left
  refine ⟨hwork, ?_⟩
  obtain rfl := Option.some.inj ((session_of_work hwork).1.symm.trans hstep)
  have hstate := hidle.state_eq.trans h.state
  have hstarted := hidle.started_eq.trans h.started
  rw [System.perform]
  dsimp only
  rw [if_neg (by simp [System.withWork, hstarted])]
  exact ⟨hstate, rfl⟩

/-- After the notice that the evaluation is over at most one more message is taken up. -/
theorem Governed.done {front : List Transition} {x : Transition} (h : Governed front x.before)
    (hmove : x.before.move? x.move = some x.after) {result : Except Error Unit} {bytes : Bytes}
    (hposted : .posted .pump endNotice result bytes ∈ x.happenings) (second : List Move) :
    x.before.cancelled = true ∧ (System.play second x.after).2.cancelled = true ∧
      (handleds (logOf (System.transitions second x.after))).length ≤ 1 ∧
      (handleds (logOf (System.transitions second x.after)) ≠ [] →
        (System.play second x.after).2.session.work = [] →
          (System.play second x.after).2.session.state = .closed) := by
  have hcancelled := h.warned.of_posted hposted
  have hstarted := h.started_of_posted hposted
  obtain ⟨hagenda, hstill, -, hhandled⟩ := exhausted_play
    ⟨h.agenda.move hmove, cancelled_move hmove hcancelled, started_move hmove hstarted, .inl rfl⟩
    second
  rcases hhandled with hnone | ⟨hone, hlast⟩
  · refine ⟨hcancelled, hstill, ?_, fun hsome => absurd hnone hsome⟩
    rw [hnone]
    exact Nat.zero_le 1
  · exact ⟨hcancelled, hstill, Nat.le_of_eq hone, fun _ => hlast.closed hagenda⟩

/-- After a request that asks for the end of the session no message is taken up. -/
theorem Governed.last {front : List Transition} {x : Transition} (h : Governed front x.before)
    (hmove : x.before.move? x.move = some x.after) {r : Request}
    (hhandled : .handled (.request r) ∈ x.happenings)
    (hcommand : r.command = "terminate" ∨ r.command = "disconnect") (second : List Move) :
    handleds x.happenings = [.request r] ∧ handleds (logOf (System.transitions second x.after)) = [] ∧
      ((System.play second x.after).2.session.work = [] →
        (System.play second x.after).2.session.state = .closed) := by
  have hm : .request r ∈ handleds x.happenings := List.mem_filterMap.mpr ⟨_, hhandled, rfl⟩
  obtain ⟨hlast, hsingle⟩ := Concluding.of_handled h.agenda hmove hm (.inr ⟨r, rfl, hcommand⟩)
  obtain ⟨hagenda, hover, hnone⟩ := concluding_play (h.agenda.move hmove) hlast second
  exact ⟨hsingle, hnone, hover.closed hagenda⟩

/-- From the start of the evaluation to the end of the session. -/
structure Lifetime (run : List Transition) (s : System) : Prop where
  /-- At most one evaluation is ever started. -/
  once : run.countP Transition.launches ≤ 1
  /-- Nobody but the session starts it. -/
  idle : ∀ x ∈ run, x.launches = false → x.before.engine = .idle → x.after.engine = .idle
  /-- It is started for a request to do so, and not when the context is done. -/
  launch : ∀ front x back, run = front ++ x :: back → x.launches = true →
    x.before.cancelled = false ∧ x.before.engine = .idle ∧
      x.after.engine = .running x.before.script ∧
      ∃ r, (handleds (logOf front)).getLast? = some (.request r) ∧
        r.command = "configurationDone"
  /-- The session goes on after that request, whatever the others do before the verdict on it. -/
  proceeds : ∀ front x back y, run = front ++ x :: back → x.launches = true →
    back.find? (·.move = .step .session) = some y →
      y.before.session.work = [.decide false .proceed] ∧
        y.after.session.state = .dispatching ∧ y.after.session.work = []
  /-- When the pump tells the client that the evaluation is over, the context is done. The session
  takes up one more message at most, and ends after it. -/
  done : ∀ front x back result bytes, run = front ++ x :: back →
    .posted .pump endNotice result bytes ∈ x.happenings →
      x.before.cancelled = true ∧ s.cancelled = true ∧
        (handleds (logOf back)).length ≤ 1 ∧
        (handleds (logOf back) ≠ [] → s.session.work = [] → s.session.state = .closed)
  /-- No message is taken up after a request that asks for the end of the session. -/
  last : ∀ front x back r, run = front ++ x :: back → .handled (.request r) ∈ x.happenings →
    r.command = "terminate" ∨ r.command = "disconnect" →
      handleds x.happenings = [.request r] ∧ handleds (logOf back) = [] ∧
        (s.session.work = [] → s.session.state = .closed)

theorem lifetime_play (script : Script) (decoder : Framing.Decoder) (outbox : Outbox)
    (moves : List Move) :
    Lifetime (System.transitions moves (.starting script decoder outbox))
      (System.play moves (.starting script decoder outbox)).2 := by
  have hsplit : ∀ {front x back},
      System.transitions moves (.starting script decoder outbox) = front ++ x :: back →
        Governed front x.before ∧ x.before.move? x.move = some x.after ∧ ∃ second,
          back = System.transitions second x.after ∧
            (System.play moves (.starting script decoder outbox)).2 =
              (System.play second x.after).2 := by
    intro front x back h
    obtain ⟨first, second, -, rfl, hbefore, hmove, hback, hend⟩ := System.transitions_split h
    exact ⟨hbefore ▸ governed_play script decoder outbox first, hmove, second, hback.symm, hend⟩
  refine ⟨?_, ?_, ?_, ?_, ?_, ?_⟩
  · rw [(governed_play script decoder outbox moves).count]
    split <;> decide
  · intro x hx hlaunch hidle
    obtain ⟨front, back, h⟩ := List.append_of_mem hx
    exact idle_move (hsplit h).2.1 hlaunch hidle
  · intro front x back h hlaunch
    obtain ⟨hgoverned, hmove, -⟩ := hsplit h
    have hlaunched := hgoverned.launch hmove hlaunch
    exact ⟨hlaunched.cancelled, hlaunched.idle, hlaunched.running,
      hgoverned.due (hlaunched.work ▸ List.mem_cons_self)⟩
  · intro front x back y h hlaunch hy
    obtain ⟨hgoverned, hmove, second, rfl, -⟩ := hsplit h
    obtain ⟨hidle, hstep⟩ := idles_find hy
    exact (hgoverned.launch hmove hlaunch).proceeds hidle hstep
  · intro front x back result bytes h hposted
    obtain ⟨hgoverned, hmove, second, rfl, hend⟩ := hsplit h
    rw [hend]
    exact hgoverned.done hmove hposted second
  · intro front x back r h hhandled hcommand
    obtain ⟨hgoverned, hmove, second, rfl, hend⟩ := hsplit h
    rw [hend]
    exact hgoverned.last hmove hhandled hcommand second

end DebugAdapter.Evaluation
