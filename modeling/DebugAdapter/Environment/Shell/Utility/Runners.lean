import DebugAdapter.Environment.Shell.Reader
import DebugAdapter.Environment.Shell.Utility.Programs

/-! # What programs that run others are told

Some programs run another one under other circumstances: with other variables, for a limited time,
or once for every part of their input. -/

namespace DebugAdapter.Shell.Utility

open Effect

/-- What another program is run with. -/
structure Launch where
  /-- The name of the program and its arguments. -/
  command : List Text
  /-- What differs in the state. -/
  change : State → State := id

/-- A state in which a variable that others get has a value. -/
def withVariable (name value : Text) (s : State) : State := { s with
  bindings := (name, value) :: s.bindings.filter (·.1 != name)
  exported := name :: s.exported.erase name }

/-- A state without a variable. -/
def withoutVariable (name : Text) (s : State) : State := { s with
  bindings := s.bindings.filter (·.1 != name), exported := s.exported.erase name }

/-- Variables that are assigned in front of a command, and the command. -/
def assigned (change : State → State) : List Text → Launch
  | [] => { command := [], change }
  | word :: rest =>
    match word.span (· != '=') with
    | (name, _ :: value) =>
      if name.isEmpty then { command := word :: rest, change }
      else assigned (fun s => withVariable name value (change s)) rest
    | _ => { command := word :: rest, change }

/-- Another program with other variables. -/
def envLaunch (args : List Text) : Except OptionFault Launch := do
  -- A single minus sign removes all variables.
  let args := if args.head? = some ['-'] then ['-', 'i'] :: args.drop 1 else args
  let (options, rest) ← Options.ofArguments "i0v" "uCS" args
  let removed (s : State) : State :=
    let s := if options.has 'i' then { s with bindings := [], exported := [] } else s
    (options.filter (·.1 == 'u')).foldl (fun s o => withoutVariable o.2 s) s
  let split := (options.filter (·.1 == 'S')).flatMap fun o =>
    (Text.between ' ' o.2).filter (!·.isEmpty)
  .ok (assigned removed (split ++ rest))

/-! ## Parts of the input -/

/-- The words of a text, some of whose characters may be quoted. The first argument is the word
that was begun, its last character first. -/
def quotedWords : Option Text → Text → Except String (List Text)
  | begun, [] => .ok (begun.map List.reverse).toList
  | begun, '\\' :: c :: rest => quotedWords (some (c :: begun.getD [])) rest
  | begun, c :: rest =>
    if c = '\'' ∨ c = '"' then
      match h : rest.dropWhile (· != c) with
      | [] => .error (if c = '"' then "double" else "single")
      | _ :: after =>
        have : after.length < rest.length := by
          have : (rest.dropWhile (· != c)).length ≤ rest.length :=
            (List.dropWhile_sublist _).length_le
          simp [h] at this
          omega
        quotedWords (some ((rest.takeWhile (· != c)).reverse ++ begun.getD [])) after
    else if isSpace c then do
      let more ← quotedWords none rest
      .ok ((begun.map List.reverse).toList ++ more)
    else quotedWords (some (c :: begun.getD [])) rest
termination_by _ text => text.length
decreasing_by all_goals (simp_wf; try omega)

/-- A text in which something stands for each occurrence of a mark. -/
def replaced (mark value : Text) : Nat → Text → Text
  | 0, text => text
  | _, [] => []
  | bound + 1, c :: rest =>
    if mark.isPrefixOf (c :: rest) && !mark.isEmpty then
      value ++ replaced mark value bound ((c :: rest).drop mark.length)
    else c :: replaced mark value bound rest

/-- The first parts of a list that have a length, save perhaps the last one. -/
def groups (n : Nat) (words : List Text) : List (List Text) := chunks (max n 1) (words.length + 1) words

/-- The commands that are run for the parts of an input. -/
def xargsCommands (options : Options) (command : List Text) (text : Text) :
    Except String (List (List Text)) := do
  let command := if command.isEmpty then ["echo".toList] else command
  let words ← if options.has '0' then
      .ok ((Text.between '\x00' text).filter (!·.isEmpty))
    else match options.last? 'd' with
      | some mark =>
        let c := ((Format.unescaped mark).1).headD '\n'
        .ok (Text.between c (if text.getLast? = some c then text.dropLast else text))
      | none =>
        if options.has 'I' then
          .ok (((bareLines text).map (·.dropWhile isSpace)).filter (!·.isEmpty))
        else quotedWords none text
  match options.last? 'I' with
  | some mark => .ok (words.map fun word =>
      command.map fun arg => replaced mark word (arg.length + 1) arg)
  | none =>
    let parts := match ((options.last? 'n').or (options.last? 'L')).bind Arithmetic.natural? with
      | some n => groups n words
      | none => if words.isEmpty then [] else [words]
    if parts.isEmpty && !options.has 'r' then .ok [command]
    else .ok (parts.map (command ++ ·))

/-! ## What a script is run by -/

/-- The program and the argument that the first line of a script names. -/
def firstLine? (text : Text) : Option (Text × List Text) :=
  match text with
  | '#' :: '!' :: rest =>
    let line := (rest.takeWhile (· != '\n')).dropWhile Reader.isBlank
    let (program, arg) := line.span fun c => !Reader.isBlank c
    let arg := ((arg.dropWhile Reader.isBlank).reverse.dropWhile Reader.isBlank).reverse
    if program.isEmpty then none else some (program, if arg.isEmpty then [] else [arg])
  | _ => none

/-- The first bytes of a program that is no script. -/
def mark : Bytes := [0x7F, 0x45, 0x4C, 0x46]

/-- What is run if a path is. -/
inductive Program where
  /-- The program with that name, which is no script. -/
  | known (name : String)
  | script (text : Text) (program : Text) (arguments : List Text)
  /-- A text that does not say what it is run by. -/
  | plain (text : Text)

/-- The program at a path. -/
def program? (s : State) (path : Text) : Except IoError Program := do
  match ← s.files.find (toBytes path) with
  | .file contents true =>
    if mark.isPrefixOf contents then
      let place := (s.files.locate (toBytes path)).toOption.getD []
      .ok (.known (String.ofList (ofBytes (place.getLast?.getD []))))
    else
      let text := ofBytes contents
      match firstLine? text with
      | some (program, arguments) => .ok (.script text program arguments)
      | none => .ok (.plain text)
  | _ => .error (.system .accessDenied)

/-- The longest argument that a program gets. -/
def longestArgument : Nat := 131071

/-- How many bytes all arguments of a program may have. -/
def mostArguments : Nat := 2097152

/-- Why the system does not start a program; the first argument bounds how often a script is run
by another one. -/
def startFault? (s : State) : Nat → Text → List Text → Option IoError
  | 0, _, _ => some (.system .tooManyLinks)
  | bound + 1, path, args =>
    if args.any (longestArgument < ·.length) ∨ mostArguments < (args.map (·.length + 9)).sum then
      some (.system .argumentsTooLong)
    else match program? s path with
      | .error e => some e
      | .ok (.known _) => none
      | .ok (.plain _) => some (.system .notProgram)
      | .ok (.script _ program _) => startFault? s bound program args

/-- How often a script may be run by another one. -/
def scriptLimit : Nat := 5

/-! ## Running others -/

/-- Runs the program at a path, which calls itself by a name, with some arguments. -/
abbrev Execute := (path name : Text) → List Text → Effect Unit

/-- Runs another program in the place of a utility, which says what is wrong if there is none. -/
def launch (execute : Execute) (name : Text) (complaint : Text → Text) (command : List Text) :
    Effect Unit := do
  let s ← get
  let directories := if (s.bindings.lookup "PATH".toList).isSome then s.directories
    else ["/bin".toList, "/usr/bin".toList]
  let wanted := command.headD []
  let located := if wanted.contains '/' then (s.program? wanted).map fun _ => wanted
    else if wanted.isEmpty then .error .notFound
    else s.search wanted directories
  match located with
  | .error missing => do
    say name (complaint wanted ++ ": ".toList ++
      (if missing = .notFound then SystemError.noEntry.text else missing.message).toList)
    endWith (if missing = .notFound then 127 else 126)
  | .ok path =>
    match startFault? s scriptLimit path (wanted :: command.drop 1) with
    | some (.system .notProgram) | none => execute path wanted (command.drop 1)
    | some e => do
      say name (complaint wanted ++ ": ".toList ++ errorText e)
      endWith (if e = .system .noEntry then 127 else 126)

/-- Runs commands one after the other; the status tells about the failures among them. -/
def launchAll (execute : Execute) (name : Text) (shows : Bool) : List (List Text) → Effect Unit
  | [] => pure ()
  | command :: rest => do
    if shows then report (spaced command ++ ['\n'])
    let before := (← get).status
    let status ← inProcess ({ · with input := [] }) (launch execute name (fun wanted => wanted) command)
    if ← isOn then
      match status with
      | .killed signal =>
        stop name 125 (command.headD [] ++ ": terminated by signal ".toList ++ decimal signal)
      | .exited 0 => do
        finish before
        launchAll execute name shows rest
      | .exited 255 =>
        stop name 124 (command.headD [] ++ ": exited with status 255; aborting".toList)
      | .exited code => do
        if code = 126 || code = 127 then endWith code
        else do
          finish 123
          launchAll execute name shows rest

/-- The programs that run others. -/
def runner (execute : Execute) (bound : Nat) (known : String) : Utility := fun name args => do
  let failed (wanted : Text) : Text :=
    "failed to run command ".toList ++ quotedName wanted
  match known with
  | "env" =>
    match envLaunch args with
    | .error fault => misused name 125 (optionMessage fault)
    | .ok env => do
      modify env.change
      if env.command.isEmpty then printenv name []
      else launch execute name quoted env.command
  | "nohup" => launch execute name failed args
  | "nice" =>
    match Options.ofArguments "" "n" args with
    | .error fault => misused name 125 (optionMessage fault)
    | .ok (_, command) => launch execute name quoted command
  | "setsid" | "stdbuf" =>
    match Options.ofArguments "cfw" "ioe" args with
    | .error fault => misused name 1 (optionMessage fault)
    | .ok (_, command) => launch execute name failed command
  | "timeout" =>
    match Options.ofArguments "v" "sk" args with
    | .error fault => misused name 125 (optionMessage fault)
    | .ok (options, words) =>
      match words with
      | limit :: command :: rest =>
        match duration? limit with
        | none => misused name 125 ("invalid time interval ".toList ++ quoted limit)
        | some limit => do
          let signal := ((options.last? 's').bind Signal.number?).getD 15
          spawn (← input) (launch execute name failed (command :: rest))
          let number := (← get).lastJob.getD 0
          let isOver (s : State) := s.finished.any (·.1 == number)
          elapse isOver bound (if limit = 0 then none else some limit)
          if isOver (← get) then
            match (← get).finished.lookup number with
            | some (.killed signal) => modify ({ · with flow := .killed signal })
            | some (.exited status) => finish status
            | none => pure ()
          else if ← isOn then
            let _ ← Builtin.send signal (decimal number)
            elapse isOver bound none
            if signal = 9 then modify ({ · with flow := .killed 9 }) else finish 124
      | _ => do
        report ("Try '".toList ++ name ++ " --help' for more information.\n".toList)
        finish 125
  | _ =>
    match Options.ofArguments "0rtpx" "nIdLPsE" args with
    | .error fault => misused name 1 (optionMessage fault)
    | .ok (options, command) =>
      match xargsCommands options command (← input) with
      | .error quote =>
        stop name 1 ("unmatched ".toList ++ quote.toList ++ (" quote; by default quotes " ++
          "are special to xargs unless you use the -0 option").toList)
      | .ok commands => do
        finish 0
        launchAll execute name (options.has 't') commands

end DebugAdapter.Shell.Utility
