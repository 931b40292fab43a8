import DebugAdapter.Environment.Shell.Words

/-! # Compound commands

Loops and selections. How the commands in them are run is given from outside. -/

namespace DebugAdapter.Shell

open Effect

/-- A failure ends a strict shell, unless it is tested. -/
def check : Effect Unit := modify fun s =>
  if s.has 'e' && !s.tested && s.status != 0 && s.flow == .on then { s with flow := .exit } else s

/-- An action whose status is tested. -/
def testing (act : Effect Unit) : Effect Unit := do
  let s ← get
  modify ({ · with tested := true })
  act
  modify ({ · with tested := s.tested })

/-- An action inside a loop. -/
def looping (act : Effect Unit) : Effect Unit := do
  modify fun s => { s with loops := s.loops + 1 }
  act
  modify fun s => { s with loops := s.loops - 1 }

/-- After a pass of a loop: whether there may be another one. -/
def endsPass : Effect Bool := do
  match (← get).flow with
  | .on => pure true
  | .leave (n + 2) goesOn => do
    modify ({ · with flow := .leave (n + 1) goesOn })
    pure false
  | .leave _ goesOn => do
    modify ({ · with flow := .on })
    pure goesOn
  | _ => pure false

/-- Runs a loop as long as its test says so. The status is that of its last pass. The first argument
bounds the number of passes. -/
def repeated (while_ : Bool) (test body : Effect Unit) : Nat → (status : UInt8) → Effect Unit
  | 0, _ => exhausted
  | bound + 1, status => do
    testing test
    let s ← get
    if s.flow == .on then
      if (s.status == 0) == while_ then
        body
        let status := (← get).status
        if ← isOn then tick bound
        if ← endsPass then repeated while_ test body bound status
      else finish status
    else if ← endsPass then repeated while_ test body bound status

/-- Runs a loop over some fields. -/
def passes (bound : Nat) (name : Text) (body : Effect Unit) : List Text → Effect Unit
  | [] => pure ()
  | field :: fields => do
    assign name field
    if ← isOn then
      body
      if ← isOn then tick bound
      if ← endsPass then passes bound name body fields

/-- Runs the first clause that fits a text. -/
def pick (output : Command → Effect Text) (run : Command → Effect Unit) (text : Text) :
    List (List Word × Option Command) → Effect Unit
  | [] => finish 0
  | (words, body) :: clauses => do
    if ← fitsAny output text words then
      match body with
      | some body => run body
      | none => finish 0
    else if ← isOn then pick output run text clauses

end DebugAdapter.Shell
