import DebugAdapter.Environment.Shell.Signals
import DebugAdapter.Environment.Shell.State

/-! # Processes of a shell

A shell runs some of its parts in processes of their own. Those in the background go on whenever
the shell itself waits. -/

namespace DebugAdapter.Shell.Effect

open Files (Tree)

/-! ## Signals -/

/-- A signal arrives at this process. -/
def strike (signal : Nat) : Effect Unit := modify fun s =>
  match if Signal.isFinal signal then none else s.traps.lookup signal with
  | some [] => s
  | some _ => { s with caught := s.caught ++ [signal] }
  | none =>
    if Signal.isHarmless signal then s
    else { s with status := (128 + signal).toUInt8, flow := .killed signal }

/-- A job as a signal leaves it. -/
def Job.struck (signal : Nat) (j : Job) : Job :=
  if Signal.isHarmless signal then j
  else { j with process := .ended (.killed signal) id [] }

/-- Takes the signals that were sent to this process and to its jobs. -/
def takeSignals : Effect Unit := do
  let s ← get
  let (own, others) := s.signals.partition fun (number, _) => number == s.number && !s.isPart
  let ofJobs := others.filter fun (number, _) => s.jobs.any fun j => decimal j.number == number
  modify fun s => { s with
    signals := others.filter fun e => !ofJobs.contains e
    jobs := s.jobs.map fun j => ofJobs.foldl
      (fun j (number, signal) => if decimal j.number == number then Job.struck signal j else j) j }
  for (_, signal) in own do strike signal

/-! ## Processes -/

/-- A job seen from a process inside the current one. -/
def Job.further (j : Job) : Job := { j with distance := j.distance.map (· + 1) }

/-- A job seen from the process around the current one. -/
def Job.nearer (j : Job) : Job := { j with distance := match j.distance with
  | some (n + 1) => some n
  | _ => none }

/-- The jobs that the current process started. -/
def ownJobs (s : State) : List Job := s.jobs.filter (·.distance == some 0)

/-- Runs an action in a process of its own, which starts with a changed state. -/
def inProcess (change : State → State) (act : Effect Unit) : Effect Status := do
  let s ← get
  modify fun s => change { s with
    jobs := s.jobs.map Job.further, caught := [], toAll := [], isPart := true
    traps := s.traps.filter fun (_, action) => action.isEmpty }
  act
  let t ← get
  modify fun t => { s with
    input := t.input, inputs := t.inputs, collected := t.collected, room := t.room
    files := { t.files with here := s.files.here }
    signals := t.signals, toAll := s.toAll ++ t.toAll, nextNumber := t.nextNumber
    jobs := t.jobs.map Job.nearer, finished := t.finished }
  for signal in t.toAll do strike signal
  takeSignals
  return match t.flow with
    | .killed signal => .killed signal
    | _ => .exited t.status

/-- Takes the status of a process that was waited for. Something is said if a signal ended it. -/
def conclude (status : Status) : Effect Unit := do
  if (← get).flow == .on then
    match status with
    | .exited code => finish code
    | .killed signal => do
      if !Signal.isSilent signal then
        report ((Signal.description signal).toList ++ ['\n'])
      finish (128 + signal).toUInt8

/-- Where the streams of a process lead whose own output may be collected. -/
def sent (streams : List (Nat × Target)) : List (Nat × Target) :=
  streams.map fun (n, t) => (n, if t = .collected then .outer .out else t)

/-- Starts an action in the background. -/
def spawn (input : Text) (act : Effect Unit) : Effect Unit := modify fun s =>
  let start : State := { s with
    jobs := [], finished := [], caught := [], signals := [], toAll := [], isPart := true, input
    traps := s.traps.filter fun (_, action) => action.isEmpty
    streams := sent s.streams, collected := [], room := none, tested := false }
  let process := act start fun _ t =>
    .ended (match t.flow with | .killed signal => .killed signal | _ => .exited t.status)
      (s.files.withChanges t.files) t.signals
  let job : Job :=
    { number := s.nextNumber, process, collects := s.streams.any (·.2 == .collected) }
  { s with
    jobs := s.jobs ++ [job], lastJob := some s.nextNumber, nextNumber := s.nextNumber + 1
    status := 0 }

/-! ## Waiting -/

/-- Runs a job until it waits or ends. What is left of it if it waits. -/
def runJob (j : Job) : Nat → Process → Effect (Option Job)
  | 0, _ => exhausted
  | _ + 1, .ended status changes signals => do
    modify fun s => { s with
      finished := (j.number, status) :: s.finished, files := changes s.files
      signals := s.signals ++ signals }
    pure none
  | bound + 1, .write stream bytes next => do
    let target := match stream with
      | .out => if j.collects then .collected else .outer .out
      | .err => .outer .err
    let result ← deliver target (ofBytes bytes)
    runJob j bound (next (result != .unread))
  | _ + 1, .pause time next => pure (some { j with process := .pause time next })

/-- Runs all jobs until they wait or end. -/
def runJobs (bound : Nat) : Effect Unit := do
  let jobs := (← get).jobs
  modify ({ · with jobs := [] })
  let mut left := []
  for j in jobs do
    if let some j ← runJob j bound j.process then left := left ++ [j]
  let waiting := left
  modify fun s => { s with jobs := waiting ++ s.jobs }
  takeSignals

/-- A job after some time in which it was asked to end or not. -/
def Job.after (time : Nat) (asked : Bool) (j : Job) : Job :=
  match j.process with
  | .pause left next =>
    if asked then { j with process := next true }
    else if left ≤ time then { j with process := next false }
    else { j with process := .pause (left - time) next }
  | _ => j

/-- A signal arrives at this process and those around it. -/
def strikeAll (signal : Nat) : Effect Unit := do
  modify fun s => { s with toAll := s.toAll ++ [signal] }
  strike signal

/-- Lets time pass in which jobs go on, until there was enough of it or nothing is left to wait
for. -/
def elapse (enough : State → Bool) : Nat → (limit : Option Nat) → Effect Unit
  | 0, _ => exhausted
  | bound + 1, limit => do
    runJobs bound
    let s ← get
    if enough s || s.flow != .on || !s.caught.isEmpty then pure ()
    else
      let times := limit.toList ++ s.jobs.filterMap fun j => match j.process with
        | .pause time _ => some time
        | _ => none
      match times.min? with
      | none | some 0 => pure ()
      | some time => do
        let asked ← (fun s next => .pause time fun asked => next asked s : Effect Bool)
        modify fun s => { s with jobs := s.jobs.map (Job.after time asked) }
        if asked then do
          runJobs bound
          strikeAll 15
        elapse enough bound (if asked then limit else limit.map (· - time))

/-- How many passes of loops take a millisecond. -/
def passesPerTime : Nat := 250

/-- Takes time for a pass of a loop. -/
def tick (bound : Nat) : Effect Unit := do
  let s ← get
  if s.passes + 1 < passesPerTime then modify fun s => { s with passes := s.passes + 1 }
  else do
    modify fun s => { s with passes := 0 }
    elapse (fun _ => false) bound (some 1)

end DebugAdapter.Shell.Effect
