import DebugAdapter.Environment.Shell.Builtins

/-! # What the names of commands stand for -/

namespace DebugAdapter.Shell

open Files (Node)

/-- Why a command cannot be run, and the status that tells it. -/
structure Missing where
  message : String
  status : UInt8
  deriving DecidableEq, Repr

namespace Missing

def notFound : Missing := ⟨"not found", 127⟩

def denied : Missing := ⟨"Permission denied", 126⟩

/-- A command whose path leads nowhere. -/
def ofError : IoError → Missing
  | .system .noEntry | .system .notDirectory => notFound
  | .system e => ⟨e.text, 127⟩
  | _ => notFound

end Missing

/-- Whether there is a program at a path. -/
def State.program? (s : State) (path : Text) : Except Missing Unit :=
  match s.files.find (toBytes path) with
  | .error e => .error (.ofError e)
  | .ok (.file _ true) => .ok ()
  | .ok _ => .error .denied

/-- The directories in which programs are looked for. -/
def State.directories (s : State) : List Text :=
  match s.bindings.lookup "PATH".toList with
  | some path => Text.between ':' path
  | none => []

/-- The path of the first program with a name in some directories. -/
def State.search (s : State) (name : Text) : List Text → Except Missing Text
  | [] => .error .notFound
  | directory :: rest =>
    let path := (if directory.isEmpty then name else directory ++ '/' :: name)
    match s.program? path with
    | .ok () => .ok path
    | .error e =>
      match s.search name rest with
      | .ok path => .ok path
      | .error other => .error (if e = .denied then { e with status := 127 } else other)

/-- The path of the program that a name stands for. -/
def State.locate (s : State) (name : Text) : Except Missing Text :=
  if name.contains '/' then (s.program? name).map fun _ => name
  else s.search name s.directories

/-- The built-in commands that run other commands. -/
def runners : List String := [".", "command", "eval", "exec", "hash", "type"]

/-- The built-in commands that end the shell if they fail. -/
def isLasting (name : Text) : Bool := Reader.lasting.contains (String.ofList name)

def isBuiltin (name : Text) : Bool :=
  runners.contains (String.ofList name) || (Builtin.byName? 0 name).isSome

/-- What a name stands for, in words or as short as possible. -/
def State.describe (s : State) (inWords : Bool) (name : Text) : Except Missing Text :=
  let said (words : String) : Except Missing Text :=
    .ok (if inWords then name ++ words.toList else name)
  if Reader.reserved.contains (String.ofList name) then said " is a shell keyword"
  else if isBuiltin name && isLasting name then said " is a special shell builtin"
  else if (s.functions.lookup name).isSome then said " is a shell function"
  else if isBuiltin name then said " is a shell builtin"
  else do
    let path ← s.locate name
    let verb := if s.known.contains name then " is a tracked alias for " else " is "
    .ok (if inWords then name ++ verb.toList ++ path else path)

/-- The names of the programs in a pipe that stand there without quotes. -/
def Command.pipeNames : Command → List Text
  | .pipe first second => pipeNames first ++ pipeNames second
  | .simple _ _ (word :: _) _ => ((Reader.plain? word).filter fun name => Reader.isName name).toList
  | _ => []

/-- In which of the rows of known programs a name stands. -/
def knownRow (name : Text) : Nat :=
  ((name.headD '\x00').toNat * 16 + total (name.map Char.toNat)) % 32768 % 31

namespace Effect

/-- Remembers that a program was found. -/
def remember (name : Text) : Effect Unit := do
  let s ← get
  let isProgram := !name.contains '/' && !isBuiltin name && (s.functions.lookup name).isNone &&
    (s.locate name).isOk
  if isProgram && !s.known.contains name then modify ({ · with known := s.known ++ [name] })

end Effect

namespace Builtin

open Effect

/-- Says what names stand for; the status tells whether all of them stand for something. -/
def type (args : List Text) : Effect Unit := do
  finish 0
  onEach (fun name => do
    match (← get).describe true name with
    | .ok text => do
      remember name
      printLine text
    | .error e => do
      print (name ++ ": ".toList ++ e.message.toList ++ ['\n'])
      if ← isOn then finish 127) args

/-- Says what the first name stands for. -/
def describe (inWords : Bool) (args : List Text) : Effect Unit := do
  finish 0
  match args.head? with
  | none => pure ()
  | some name =>
    match (← get).describe inWords name with
    | .ok text => do
      remember name
      printLine text
    | .error e => do
      if inWords then print (name ++ ": ".toList ++ e.message.toList ++ ['\n'])
      if ← isOn then finish 127

/-- Looks for programs, forgets all of them, or lists the known ones. -/
def hash (args : List Text) : Effect Unit :=
  withOptions "r" "" args fun options args => do
    finish 0
    if options.has 'r' then modify ({ · with known := [] })
    else if args.isEmpty then
      let s ← get
      for name in s.known.mergeSort fun a b => knownRow a ≤ knownRow b do
        match s.locate name with
        | .ok path => printLine path
        | .error _ => pure ()
    else onEach (fun name => do
      match (← get).describe false name with
      | .ok _ => remember name
      | .error e => do
        complain (name ++ ": ".toList ++ e.message.toList)
        if ← isOn then finish 1) args

end Builtin

end DebugAdapter.Shell
