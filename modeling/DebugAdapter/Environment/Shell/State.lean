import DebugAdapter.Environment.Files.Tree
import DebugAdapter.Environment.Shell.Syntax
import DebugAdapter.Interpreter.Child

/-! # The state of a shell

A shell acts on a state and is a child program at the same time: an action gives the rest of the
program its result when the outside world lets it go on. The shell is part of the surroundings of
the adapter. No definition of the adapter looks into it. -/

namespace DebugAdapter.Shell

open Files (Tree)

/-- Where a stream of a command leads. -/
inductive Target where
  | outer (stream : OutputStream)
  /-- Into the text that is being collected. -/
  | collected
  | nowhere
  | file (path : Text)
  /-- Where nothing can be written. -/
  | full
  deriving DecidableEq, Repr

/-- What a process does, seen from the shell that runs it. At its end it leaves its changes to
files and signals that it sent to others. -/
inductive Process where
  | ended (status : Status) (changes : Tree → Tree) (signals : List (Text × Nat))
  /-- Writes some bytes, and learns whether anybody still reads the stream. -/
  | write (stream : OutputStream) (bytes : Bytes) (next : Bool → Process)
  /-- Waits for so many milliseconds, and learns whether it was asked to end meanwhile. -/
  | pause (time : Nat) (next : Bool → Process)

/-- A process as others see it that know nothing of shells. -/
def Process.child : Process → Child
  | .ended status _ _ => .ended status
  | .write stream bytes next => .write stream bytes fun isRead => (next isRead).child
  | .pause time next => .pause time fun asked => (next asked).child

/-- A command in the background. -/
structure Job where
  number : Nat
  process : Process
  /-- Whether its output belongs to the text that is being collected. -/
  collects : Bool := false
  /-- How many processes inside the one that started it now run. Nothing if that one ended. -/
  distance : Option Nat := some 0

/-- Whether the next command is run. -/
inductive Flow where
  | on
  /-- Leaves so many loops, and goes on with the last of them if told to. -/
  | leave (loops : Nat) (goesOn : Bool)
  | return_
  /-- Something cannot be done. -/
  | refused
  | exit
  /-- A signal ended the process. -/
  | killed (signal : Nat)
  deriving DecidableEq, Repr

structure State where
  bindings : List (Text × Text) := []
  /-- The variables that other programs get. -/
  exported : List Text := []
  /-- The variables that do not change. -/
  constants : List Text := []
  /-- The values that variables had before the current function. -/
  saved : List (Text × Option Text) := []
  /-- How many functions are around the current command. -/
  calls : Nat := 0
  /-- How many loops are around the current command. -/
  loops : Nat := 0
  /-- The name of the shell and its parameters. -/
  name : Text := []
  parameters : List Text := []
  /-- How many letters of the current argument were read as options. -/
  lettersRead : Nat := 0
  functions : List (Text × Command) := []
  /-- What is done when a signal arrives or at the end. -/
  traps : List (Nat × Text) := []
  /-- The signals that arrived and about which something is to be done. -/
  caught : List Nat := []
  /-- Signals on their way to other processes, by their numbers. -/
  signals : List (Text × Nat) := []
  /-- Signals to the whole group, which still have to reach the processes around this one. -/
  toAll : List Nat := []
  /-- How many passes of loops there were since time was last taken for them. -/
  passes : Nat := 0
  status : UInt8 := 0
  flow : Flow := .on
  /-- The programs that were found before. -/
  known : List Text := []
  /-- The line up to which the program was read. -/
  readTo : Nat := 0
  /-- The line of the current command, and the built-in command around it. -/
  line : Nat := 0
  within : Option Text := none
  /-- What is left of the standard input, and of other inputs. -/
  input : Text := []
  inputs : List (Nat × Text) := []
  streams : List (Nat × Target) := [(1, .outer .out), (2, .outer .err)]
  /-- The text that is being collected, its last character first. -/
  collected : Text := []
  /-- How much more may be collected before nobody reads it any more. -/
  room : Option Nat := none
  /-- The letters of the options that are on. -/
  options : List Char := []
  /-- The status with which the shell ends, as soon as it does. -/
  ending : Option UInt8 := none
  /-- Whether the status of a command is tested. -/
  tested : Bool := false
  /-- The status of the last command whose output was a part of a word. -/
  outputStatus : Option UInt8 := none
  /-- The process number of the shell, and of those around it. -/
  number : Text := "1000".toList
  above : List Text := []
  /-- Whether this process is only a part of the shell with that number. -/
  isPart : Bool := false
  /-- The number of the next process. -/
  nextNumber : Nat := 1001
  jobs : List Job := []
  /-- The process number of the last job, and what became of those that ended. -/
  lastJob : Option Nat := none
  finished : List (Nat × Status) := []
  files : Tree := {}
  mask : Nat := 18

/-- An action of a shell. -/
abbrev Effect (α : Type) := State → (α → State → Process) → Process

instance : Monad Effect where
  pure a := fun s next => next a s
  bind act f := fun s next => act s fun a s => f a s next

/-- Whether an option is on. -/
def State.has (s : State) (option : Char) : Bool := s.options.contains option

/-- How much of a text is collected that nobody may want. -/
def pipeRoom : Nat := 1000000

/-- How much room a write takes at least. -/
def leastRoom : Nat := 20

namespace Effect

def get : Effect State := fun s next => next s s

def modify (f : State → State) : Effect Unit := fun s next => next () (f s)

/-- The status of the last command. -/
def finish (status : UInt8) : Effect Unit := modify ({ · with status })

/-- Ends the program. -/
def endWith (status : UInt8) : Effect Unit := modify ({ · with status, flow := .exit })

/-- Ends a program that went too deep. -/
def exhausted {α : Type} : Effect α := fun s _ => .ended (.killed 11) id s.signals

/-- What became of a write. -/
inductive Delivery where
  | done
  | badStream
  | noSpace
  /-- Nobody reads there. -/
  | unread
  deriving DecidableEq, Repr

def Delivery.failure? : Delivery → Option String
  | .done | .unread => none
  | .badStream => some "Bad file descriptor"
  | .noSpace => some "No space left on device"

/-- Writes somewhere. -/
def deliver (target : Target) (text : Text) : Effect Delivery := fun s next =>
  match target with
  | .outer stream => .write stream (toBytes text) fun isRead =>
    next (if isRead then .done else .unread) s
  | .collected =>
    let s := { s with collected := text.reverse ++ s.collected }
    match s.room with
    | none => next .done s
    | some room =>
      let taken := max text.length leastRoom
      next (if taken ≤ room then .done else .unread) { s with room := some (room - taken) }
  | .nowhere => next .done s
  | .file path =>
    match s.files.write (toBytes path) (toBytes text) true with
    | .ok files => next .done { s with files }
    | .error _ => next .done s
  | .full => next .noSpace s

/-- Writes to one of the streams. A process that writes where nobody reads is ended. -/
def write (stream : Nat) (text : Text) : Effect Delivery := do
  if text.isEmpty then return .done
  match (← get).streams.lookup stream with
  | none => return .badStream
  | some target => do
    let result ← deliver target text
    if result == .unread then modify ({ · with flow := .killed 13 })
    return result

/-- Writes a message. -/
def report (text : Text) : Effect Unit := do let _ ← write 2 text

/-- A message of the shell. -/
def complain (message : Text) : Effect Unit := do
  let s ← get
  let around := match s.within with
    | some name => name ++ ": ".toList
    | none => []
  report (s.name ++ ": ".toList ++ decimal s.line ++ ": ".toList ++ around ++ message ++ ['\n'])

/-- Ends the shell, or the command that takes care of it, because something cannot be done. -/
def abort (status : UInt8) (message : Text) : Effect Unit := do
  complain message
  modify ({ · with status, flow := .refused })

/-- What a built-in command does if it cannot do what it was asked for. -/
def refuse (message : Text) : Effect Unit := do
  complain message
  modify ({ · with status := 2, flow := .refused })

/-- Shows a command that is about to be run. -/
def trace (words : List Text) : Effect Unit := do
  if (← get).has 'x' then report ('+' :: words.flatMap (' ' :: ·) ++ ['\n'])

/-- Whether the next command is run. -/
def isOn : Effect Bool := do return (← get).flow == .on

/-- Whether a variable may change; if not, the shell ends or the command is refused. -/
def mayChange (name : Text) (refusal : Text → Effect Unit) : Effect Bool := do
  if (← get).constants.contains name then
    refusal (name ++ ": is read only".toList)
    pure false
  else pure true

/-- Gives a variable a value. Programs may be found elsewhere after a change of the path. -/
def bind (name value : Text) : Effect Unit := modify fun s =>
  { s with
    bindings := (name, value) :: s.bindings.filter (·.1 != name)
    known := if name = "PATH".toList then [] else s.known
    exported := if s.has 'a' && !s.exported.contains name then name :: s.exported else s.exported }

/-- Assigns a value to a variable. -/
def assign (name value : Text) : Effect Unit := do
  if ← mayChange name (abort 2) then bind name value

end Effect

end DebugAdapter.Shell
