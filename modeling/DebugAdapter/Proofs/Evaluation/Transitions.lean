import DebugAdapter.Proofs.Evaluation.Forwarding

/-! # Transitions

A log tells what happens in a run, but not in which states. Where that matters a run is looked at as
the sequence of its transitions, each with the system before and after it. -/

namespace DebugAdapter.Evaluation

open Debuggee Protocol Session

/-- A move that was possible, with the system before and after it. -/
structure Transition where
  before : System
  move : Move
  after : System

/-- What happens in a transition. -/
def Transition.happenings (x : Transition) : List Happening := x.before.happenings x.move

/-- What happens in transitions that follow each other. -/
def logOf (transitions : List Transition) : List Happening :=
  transitions.flatMap Transition.happenings

theorem logOf_append (first second : List Transition) :
    logOf (first ++ second) = logOf first ++ logOf second := List.flatMap_append

theorem logOf_singleton (x : Transition) : logOf [x] = x.happenings := List.flatMap_singleton ..

/-- A message that the session begins to work on. -/
def Happening.handled? : Happening → Option Message
  | .handled m => some m
  | _ => none

/-- The messages that the session began to work on. -/
def handleds (log : List Happening) : List Message := log.filterMap Happening.handled?

theorem handleds_append (log more : List Happening) :
    handleds (log ++ more) = handleds log ++ handleds more := List.filterMap_append

namespace System

/-- The moves of a run that were possible. -/
def transitions : List Move → System → List Transition
  | [], _ => []
  | move :: moves, s =>
    match s.move? move with
    | none => transitions moves s
    | some t => ⟨s, move, t⟩ :: transitions moves t

/-- The log of a run is what happens in its transitions. -/
theorem log_eq (moves : List Move) (s : System) :
    (play moves s).1 = logOf (transitions moves s) := by
  induction moves generalizing s with
  | nil => rfl
  | cons move moves ih =>
    rw [play, transitions]
    cases hmove : s.move? move with
    | none => exact ih s
    | some t =>
      dsimp only
      rw [ih t, logOf, logOf, List.flatMap_cons]
      rfl

/-- What holds at the beginning of a run, and after each transition if it did before, holds at the
end of every run. -/
theorem transitions_induction {s : System} {P : List Transition → System → Prop} (start : P [] s)
    (step : ∀ run t move u, P run t → t.move? move = some u → P (run ++ [⟨t, move, u⟩]) u)
    (moves : List Move) : P (transitions moves s) (play moves s).2 := by
  suffices h : ∀ run t, P run t → P (run ++ transitions moves t) (play moves t).2 from h [] s start
  induction moves with
  | nil =>
    intro run t h
    rw [transitions, play, List.append_nil]
    exact h
  | cons move moves ih =>
    intro run t h
    rw [transitions, play]
    cases hmove : t.move? move with
    | none => exact ih run t h
    | some u =>
      dsimp only
      rw [List.append_cons]
      exact ih _ u (step run t move u h hmove)

/-- What comes before a transition in a run, and what comes after it, are runs themselves. -/
theorem transitions_split {moves : List Move} {s : System} {front back : List Transition}
    {x : Transition} (h : transitions moves s = front ++ x :: back) :
    ∃ first second, moves = first ++ x.move :: second ∧ transitions first s = front ∧
      (play first s).2 = x.before ∧ x.before.move? x.move = some x.after ∧
      transitions second x.after = back ∧ (play moves s).2 = (play second x.after).2 := by
  induction moves generalizing s front with
  | nil => exact absurd h.symm (List.append_ne_nil_of_right_ne_nil _ (List.cons_ne_nil _ _))
  | cons move moves ih =>
    rw [transitions] at h
    cases hmove : s.move? move with
    | none =>
      rw [hmove] at h
      obtain ⟨first, second, rfl, hfirst, hbefore, hx, hsecond, hend⟩ := ih h
      refine ⟨move :: first, second, rfl, ?_, ?_, hx, hsecond, ?_⟩
      · rw [transitions, hmove]
        exact hfirst
      · rw [play, hmove]
        exact hbefore
      · rw [play, hmove]
        exact hend
    | some t =>
      rw [hmove] at h
      dsimp only at h
      cases front with
      | nil =>
        obtain ⟨rfl, hback⟩ := List.cons.inj h
        refine ⟨[], moves, rfl, rfl, rfl, hmove, hback, ?_⟩
        rw [play, hmove]
      | cons y front =>
        obtain ⟨rfl, hrest⟩ := List.cons.inj h
        obtain ⟨first, second, rfl, hfirst, hbefore, hx, hsecond, hend⟩ := ih hrest
        refine ⟨move :: first, second, rfl, ?_, ?_, hx, hsecond, ?_⟩
        · rw [transitions, hmove]
          exact congrArg _ hfirst
        · rw [play, hmove]
          exact hbefore
        · rw [play, hmove]
          exact hend

end System

end DebugAdapter.Evaluation
