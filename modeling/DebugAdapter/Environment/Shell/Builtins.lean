import DebugAdapter.Environment.Shell.Conditions
import DebugAdapter.Environment.Shell.Expansion
import DebugAdapter.Environment.Shell.Format
import DebugAdapter.Environment.Shell.Jobs
import DebugAdapter.Environment.Shell.Options
import DebugAdapter.Environment.Shell.Reader

/-! # Built-in commands

The commands of a shell that need no other commands to be run. -/

namespace DebugAdapter.Shell.Builtin

open Effect
open Files (Node)

/-! ## Arguments -/

/-- Goes on with the options and the other arguments, unless there is an option that is not
known. -/
def withOptions (flags valued : String) (args : List Text)
    (act : Options → List Text → Effect Unit) : Effect Unit :=
  match Options.ofArguments flags valued args with
  | .ok (options, rest) => act options rest
  | .error fault => refuse fault.message

/-- Goes on with the number that a word is. -/
def withNumber (word : Text) (act : Nat → Effect Unit) : Effect Unit :=
  match Arithmetic.natural? word with
  | some n => act n
  | none => refuse ("Illegal number: ".toList ++ word)

/-- Goes on with the name and the value that a word assigns. -/
def withBinding (word : Text) (act : Text → Option Text → Effect Unit) : Effect Unit :=
  let (name, rest) := word.span (· != '=')
  if Reader.isName name then
    act name (match rest with
      | _ :: value => some value
      | [] => none)
  else refuse (name ++ ": bad variable name".toList)

/-- The name that a word gives a variable, which ends at an equals sign. -/
def nameIn (word : Text) : Text := word.takeWhile (· != '=')

/-- Gives the variable that a word names a value. -/
def store (word value : Text) : Effect Unit :=
  withBinding word fun name _ => do
    if ← mayChange name refuse then bind name value

/-- Performs an action with one thing after the other as long as nothing goes wrong. -/
def onEach {α : Type} (act : α → Effect Unit) : List α → Effect Unit
  | [] => pure ()
  | a :: rest => do
    act a
    if ← isOn then onEach act rest

/-- A text in quotes, as a shell reads it. -/
def quoted (text : Text) : Text :=
  '\'' :: text.flatMap (fun c => if c = '\'' then "'\"'\"'".toList else [c]) ++ ['\'']

/-! ## Output -/

/-- Prints some text. -/
def print (text : Text) : Effect Unit := do
  match (← write 1 text).failure? with
  | none => pure ()
  | some _ => do
    let name := (← get).within.getD []
    complain (name ++ ": I/O error".toList)
    if ← isOn then finish 1

def printLine (text : Text) : Effect Unit := print (text ++ ['\n'])

def echo (args : List Text) : Effect Unit := do
  finish 0
  print (Format.echo args)

def printf (args : List Text) : Effect Unit :=
  withOptions "" "" args fun _ args =>
    match args with
    | [] => refuse "usage: printf format [arg ...]".toList
    | format :: args => do
      let printed := Format.printf format args
      finish (if printed.warnings.isEmpty then 0 else 1)
      for warning in printed.warnings do complain warning
      match printed.failure with
      | some failure => complain failure
      | none => pure ()
      print printed.output
      if printed.failure.isSome && (← isOn) then modify ({ · with status := 2, flow := .refused })

def test (args : List Text) : Effect Unit := do
  match Condition.test (← get).files args with
  | .ok holds => finish (if holds then 0 else 1)
  | .error message => refuse message

/-- A condition in brackets. -/
def bracket (args : List Text) : Effect Unit :=
  if (args.getLast?.bind List.head?) = some ']' then test args.dropLast else refuse "missing ]".toList

/-! ## Input -/

/-- A line of some input: its characters, whether each one was escaped, whether the line ends,
and what follows it. -/
def line (raw : Bool) : Text → List (Char × Bool) × Bool × Text
  | [] => ([], false, [])
  | '\n' :: rest => ([], true, rest)
  | '\\' :: c :: rest =>
    if raw then
      let (text, ends, rest) := line raw (c :: rest)
      (('\\', false) :: text, ends, rest)
    else
      let (text, ends, rest) := line raw rest
      (if c = '\n' then text else (c, true) :: text, ends, rest)
  | c :: rest =>
    let (text, ends, rest) := line raw rest
    (if c = '\x00' ∨ c = '\\' ∧ !raw then text else (c, false) :: text, ends, rest)

/-- Whether a character is one of the separators, and whether it must be a blank one. -/
def separates (separators : Text) (blank : Bool) (c : Char × Bool) : Bool :=
  !c.2 && separators.contains c.1 && (!blank || Glyph.isSpace c.1)

/-- The first field of a line and what follows its separators. -/
def field (separators : Text) (text : List (Char × Bool)) :
    List (Char × Bool) × List (Char × Bool) :=
  let (field, rest) := text.span fun c => !separates separators false c
  let rest := rest.dropWhile (separates separators true)
  match rest with
  | c :: after =>
    (field, if separates separators false c then after.dropWhile (separates separators true)
      else rest)
  | [] => (field, [])

/-- Gives the fields of a line to variables, the last of which takes what is left. -/
def assignFields (separators : Text) : List Text → List (Char × Bool) → Effect Unit
  | [], _ => pure ()
  | name :: names, text => do
    let (first, rest) := field separators text
    let value := if names.isEmpty && !rest.isEmpty then
        (text.reverse.dropWhile (separates separators true)).reverse
      else first
    store name (value.map (·.1))
    if ← isOn then assignFields separators names rest

def read (args : List Text) : Effect Unit :=
  withOptions "r" "p" args fun options names =>
    match names.find? fun name => !Reader.isName (nameIn name) with
    | some name => refuse (nameIn name ++ ": bad variable name".toList)
    | none =>
      if names.isEmpty then refuse "arg count".toList
      else do
        let s ← get
        let (text, ends, input) := line (options.has 'r') s.input
        modify ({ · with input })
        finish (if ends then 0 else 1)
        assignFields s.separators names (text.dropWhile (separates s.separators true))

/-! ## Variables -/

/-- The bindings of some variables, written as commands. -/
def listing (before : String) (names : List Text) (bindings : List (Text × Text)) : Text :=
  let lines := names.map fun name =>
    before.toList ++ name ++ match bindings.lookup name with
      | some value => '=' :: quoted value
      | none => []
  (lines.mergeSort notAfter).flatMap (· ++ ['\n'])

/-- Gives variables a property, and values if there are any. -/
def mark (before : String) (marked : State → List Text) (add : Text → State → State)
    (args : List Text) : Effect Unit :=
  withOptions "p" "" args fun options args => do
    finish 0
    if args.isEmpty || options.has 'p' then
      let s ← get
      print (listing before (marked s) s.bindings)
    else onEach (fun arg => withBinding arg fun name value => do
      match value with
      | none => modify (add name)
      | some value =>
        if ← mayChange name refuse then
          bind name value
          modify (add name)) args

def export_ : List Text → Effect Unit :=
  mark "export " (·.exported) fun name s => { s with exported := name :: s.exported.erase name }

def readonly : List Text → Effect Unit :=
  mark "readonly " (·.constants) fun name s => { s with constants := name :: s.constants.erase name }

/-- Makes variables local to a function. -/
def localize (args : List Text) : Effect Unit := do
  if (← get).calls = 0 then refuse "not in a function".toList
  else do
    finish 0
    onEach (fun arg => withBinding arg fun name value => do
      modify fun s => { s with saved := (name, s.bindings.lookup name) :: s.saved }
      match value with
      | some value => if ← mayChange name refuse then bind name value
      | none => pure ()) args

def unset (args : List Text) : Effect Unit :=
  withOptions "fv" "" args fun options names => do
    finish 0
    if options.has 'f' then
      modify fun s => { s with functions := s.functions.filter fun f => !names.contains f.1 }
    else onEach (fun word => withBinding word fun name _ => do
      if ← mayChange name refuse then
        modify fun s => { s with
          bindings := s.bindings.filter (·.1 != name), exported := s.exported.erase name
          known := if name = "PATH".toList then [] else s.known }) names

def shift (args : List Text) : Effect Unit :=
  withNumber (args.headD ['1']) fun n => do
    if (← get).parameters.length < n then refuse "can't shift that many".toList
    else modify fun s => { s with
      parameters := s.parameters.drop n, lettersRead := 0, status := 0 }

/-! ## Options of the shell -/

/-- What arguments say about the options of a shell, up to one that there is not. -/
structure Switches where
  on : List Char
  /-- The arguments that are left, or nothing if they stay as they are. -/
  parameters : Option (List Text) := none
  /-- Whether the options are listed, and whether as commands. -/
  lists : Option Bool := none
  fault : Option Text := none

/-- Turns an option on or off. -/
def turn (on : Bool) (letter : Char) (options : List Char) : List Char :=
  if on then letter :: options.erase letter else options.erase letter

/-- The names of options that change nothing. -/
def idleOptions : List String := ["privileged", "nolog", "debug"]

/-- Turns the options on or off that a word has. An `o` stands for the option that the next
argument names. The letters of `extra` may be among them. -/
def switchLetters (extra : List Char) (isOn : Bool) :
    Text → List Text → Switches → Switches × List Text
  | [], args, s => (s, args)
  | 'o' :: letters, [], s => switchLetters extra isOn letters [] { s with lists := some (!isOn) }
  | 'o' :: letters, name :: args, s =>
    match optionLetters.find? (·.2 == String.ofList name) with
    | some (letter, _) =>
      switchLetters extra isOn letters args { s with on := turn isOn letter s.on }
    | none =>
      if idleOptions.contains (String.ofList name) then switchLetters extra isOn letters args s
      else ({ s with fault := some ("Illegal option -o ".toList ++ name) }, args)
  | c :: letters, args, s =>
    if extra.contains c || optionLetters.any (·.1 == c) then
      switchLetters extra isOn letters args { s with on := turn isOn c s.on }
    else ({ s with fault := some ("Illegal option -".toList ++ [c]) }, args)

/-- Turns options on and off. The letters of `extra` may be among them. The first argument bounds
the number of words. -/
def switchWords (extra : List Char) : Nat → List Text → Switches → Switches
  | 0, _, s | _, [], s => s
  | _, ['-', '-'] :: rest, s => { s with parameters := some rest }
  | _, ['-'] :: rest, s => { s with
      on := (s.on.erase 'x').erase 'v', parameters := if rest.isEmpty then none else some rest }
  | bound + 1, (sign :: letters) :: rest, s =>
    if sign = '-' ∨ sign = '+' then
      let (s, rest) := switchLetters extra (sign = '-') letters rest s
      if s.fault.isSome then s else switchWords extra bound rest s
    else { s with parameters := some ((sign :: letters) :: rest) }
  | _, [] :: rest, s => { s with parameters := some ([] :: rest) }

/-- Turns options on and off, given those that are on. -/
def switch (extra : List Char) (args : List Text) (on : List Char) : Switches :=
  switchWords extra (args.length + 1) args { on }

/-- Says that jobs cannot be controlled without a terminal if that is wanted. -/
def refuseControl : Effect Unit := do
  if (← get).has 'm' then
    complain "can't access tty; job control turned off".toList
    modify fun s => { s with options := s.options.erase 'm' }

/-- The options in the order in which they are listed. -/
def listed : List (Option Char × String) :=
  [(some 'e', "errexit"), (some 'f', "noglob"), (some 'I', "ignoreeof"),
    (some 'i', "interactive"), (some 'm', "monitor"), (some 'n', "noexec"), (some 's', "stdin"),
    (some 'x', "xtrace"), (some 'v', "verbose"), (some 'V', "vi"), (some 'E', "emacs"),
    (some 'C', "noclobber"), (some 'a', "allexport"), (some 'b', "notify"), (some 'u', "nounset"),
    (none, "privileged"), (none, "nolog"), (none, "debug")]

/-- The list of the options, as commands or as a table. -/
def optionList (asCommands : Bool) (on : List Char) : Text :=
  let isOn (letter : Option Char) := (letter.map on.contains).getD false
  if asCommands then
    listed.flatMap fun (letter, name) =>
      "set ".toList ++ (if isOn letter then '-' else '+') :: "o ".toList ++ name.toList ++ ['\n']
  else
    "Current option settings\n".toList ++ listed.flatMap fun (letter, name) =>
      name.toList ++ List.replicate (16 - name.length) ' ' ++
        (if isOn letter then "on\n" else "off\n").toList

def set (args : List Text) : Effect Unit := do
  let s ← get
  if args.isEmpty then do
    finish 0
    print (listing "" (s.bindings.map (·.1)) s.bindings)
  else do
    let switches := switch [] args s.options
    modify ({ · with options := switches.on })
    match switches.lists with
    | some asCommands => print (optionList asCommands switches.on)
    | none => pure ()
    match switches.fault with
    | some message => refuse message
    | none => do
      modify fun s => { s with
        status := 0, parameters := switches.parameters.getD s.parameters
        lettersRead := if switches.parameters.isSome then 0 else s.lettersRead }
      refuseControl

/-- Whether an option takes an argument; nothing if there is no such option. -/
def takesArgument? (letter : Char) : Text → Option Bool
  | [] => none
  | c :: rest => if c = letter then some (rest.head? = some ':') else takesArgument? letter rest

/-- Reads the next option of some arguments into a variable. -/
def nextOption (options name : Text) (args : List Text) : Effect Unit := do
  let s ← get
  let index := ((s.bindings.lookup "OPTIND".toList).bind Arithmetic.natural?).getD 1
  let index := max index 1
  let silent := options.head? = some ':'
  let begun := if s.lettersRead = 0 then [] else (args.getD (index - 2) []).drop s.lettersRead
  let leave (status : UInt8) (found : Text) (index lettersRead : Nat) : Effect Unit := do
    bind "OPTIND".toList (decimal index)
    modify ({ · with lettersRead, status })
    store name found
  let (letters, index, position) := match begun with
    | [] => match args[index - 1]? with
      | some ('-' :: c :: cs) => (c :: cs, index + 1, 1)
      | _ => ([], index, 0)
    | letters => (letters, index, s.lettersRead)
  match letters with
  | [] => leave 1 ['?'] index 0
  | c :: rest =>
    if c = '-' ∧ rest = [] ∧ position = 1 then leave 1 ['?'] index 0
    else
      let after := position + 1
      match takesArgument? c options with
      | none => do
        if silent then bind "OPTARG".toList [c]
        else do
          report ("Illegal option -".toList ++ [c, '\n'])
          modify fun s => { s with bindings := s.bindings.filter (·.1 != "OPTARG".toList) }
        leave 0 ['?'] index after
      | some false => do
        bind "OPTARG".toList []
        leave 0 [c] index after
      | some true =>
        match rest, args[index - 1]? with
        | [], none => do
          if silent then bind "OPTARG".toList [c]
          else do
            report ("No arg for -".toList ++ c :: " option\n".toList)
            modify fun s => { s with bindings := s.bindings.filter (·.1 != "OPTARG".toList) }
          leave 0 (if silent then [':'] else ['?']) index 0
        | [], some value => do
          bind "OPTARG".toList value
          leave 0 [c] (index + 1) 0
        | value, _ => do
          bind "OPTARG".toList value
          leave 0 [c] index 0

def getopts (args : List Text) : Effect Unit := do
  match args with
  | options :: name :: rest => do
    let parameters := (← get).parameters
    nextOption options name (if rest.isEmpty then parameters else rest)
  | _ => refuse "Usage: getopts optstring var [arg...]".toList

/-! ## Leaving -/

/-- Leaves loops, and perhaps goes on with the last of them. -/
def leave (goesOn : Bool) (args : List Text) : Effect Unit :=
  match Arithmetic.natural? (args.headD ['1']) with
  | some (n + 1) => modify fun s =>
    { s with status := 0, flow := if s.loops = 0 then s.flow else .leave (min (n + 1) s.loops) goesOn }
  | _ => refuse ("Illegal number: ".toList ++ args.headD [])

/-- Ends the shell, a function or a file. -/
def leaveWith (flow : Flow) (args : List Text) : Effect Unit :=
  match args with
  | [] => modify ({ · with flow })
  | arg :: _ => withNumber arg fun n => modify ({ · with status := n.toUInt8, flow })

/-- Ends the shell. In what is done at its end, the status is the one that it ended with. -/
def exit (args : List Text) : Effect Unit := do
  match (← get).ending with
  | some status => finish status
  | none => pure ()
  leaveWith .exit args

/-! ## Directories -/

/-- The names in a path, without those that mean nothing. -/
def directNames (path : Text) : List Text :=
  (Text.pathParts path).foldl (fun names name =>
    if name.isEmpty || name = ['.'] then names
    else if name = ['.', '.'] then names.dropLast
    else names ++ [name]) []

def workingDirectory (s : State) : Text := (s.bindings.lookup "PWD".toList).getD ['/']

/-- The directory that a path leads to, by its names. -/
def directory (s : State) (path : Text) : Text :=
  let all := if path.head? = some '/' then path else workingDirectory s ++ '/' :: path
  '/' :: ['/'].intercalate (directNames all)

def cd (args : List Text) : Effect Unit :=
  withOptions "LP" "" args fun _ args => do
    let s ← get
    let old := (s.bindings.lookup "OLDPWD".toList).getD (workingDirectory s)
    let wanted := match args.head? with
      | none => (s.bindings.lookup "HOME".toList).getD []
      | some ['-'] => old
      | some path => path
    let path := directory s wanted
    match s.files.locate (toBytes path) with
    | .ok place =>
      if s.files.node? place = some .directory then do
        modify fun s => { s with files := { s.files with here := place }, status := 0 }
        bind "OLDPWD".toList (workingDirectory s)
        bind "PWD".toList path
        if args.head? = some ['-'] then printLine path
      else refuse ("can't cd to ".toList ++ wanted)
    | .error _ => refuse ("can't cd to ".toList ++ wanted)

def pwd (args : List Text) : Effect Unit :=
  withOptions "LP" "" args fun options _ => do
    let s ← get
    finish 0
    printLine (if options.has 'P' then
        '/' :: ofBytes ([0x2F].intercalate s.files.here)
      else workingDirectory s)

/-! ## Permissions of new files -/

def octal (n : Nat) : Text :=
  let digits := Nat.toDigits 8 n
  List.replicate (4 - digits.length) '0' ++ digits

/-- The permissions of the three classes of users. -/
def permissions (mask : Nat) : Text :=
  let letters (shift : Nat) : Text :=
    let bits := 7 - mask / 2 ^ shift % 8
    (if bits / 4 % 2 = 1 then ['r'] else []) ++ (if bits / 2 % 2 = 1 then ['w'] else []) ++
      if bits % 2 = 1 then ['x'] else []
  "u=".toList ++ letters 6 ++ ",g=".toList ++ letters 3 ++ ",o=".toList ++ letters 0

/-- A mask after a change such as `g-w`. -/
def changed? (mask : Nat) (change : Text) : Option Nat :=
  let (who, rest) := change.span fun c => "ugoa".contains c
  match rest with
  | sign :: letters =>
    if letters.all (fun c => "rwx".contains c) && "=+-".contains sign then
      let bits := (if letters.contains 'r' then 4 else 0) + (if letters.contains 'w' then 2 else 0) +
        if letters.contains 'x' then 1 else 0
      let part (c : Char) (shift : Nat) : Nat :=
        let old := mask / 2 ^ shift % 8
        let isMeant := who.isEmpty || who.contains 'a' || who.contains c
        let new := if !isMeant then old
          else if sign = '=' then 7 - bits
          else if sign = '+' then old &&& (7 - bits)
          else old ||| bits
        new * 2 ^ shift
      some (part 'u' 6 + part 'g' 3 + part 'o' 0)
    else none
  | [] => none

def umask (args : List Text) : Effect Unit :=
  withOptions "S" "" args fun options args => do
    let s ← get
    finish 0
    match args.head? with
    | none => printLine (if options.has 'S' then permissions s.mask else octal s.mask)
    | some word =>
      if (word.head?.map Char.isDigit).getD false then
        if word.all Format.isOctal then modify ({ · with mask := Arithmetic.ofDigits 8 word % 512 })
        else refuse ("Illegal number: ".toList ++ word)
      else match (Text.between ',' word).foldlM changed? s.mask with
        | some mask => modify ({ · with mask })
        | none => refuse ("Illegal mode: ".toList ++ word)

def ulimit (args : List Text) : Effect Unit :=
  withOptions "HSatfdscmlpnvwr" "" args fun _ args => do
    finish 0
    match args.head? with
    | none => printLine "unlimited".toList
    | some word =>
      if word = "unlimited".toList || (Arithmetic.natural? word).isSome then pure ()
      else refuse "bad number".toList

/-! ## Signals and jobs -/

/-- What is done about signals, written as commands. -/
def trapList (traps : List (Nat × Text)) : Text :=
  (traps.mergeSort fun a b => decide (a.1 ≤ b.1)).flatMap fun (signal, action) =>
    "trap -- ".toList ++ quoted action ++
      ' ' :: (if signal = 0 then "EXIT" else Signal.name signal).toList ++ ['\n']

/-- Says what is done about signals. -/
def setTraps (action : Option Text) : List Text → Effect Unit
  | [] => pure ()
  | word :: words =>
    match Signal.trapped? word with
    | none => do
      report ("trap: ".toList ++ word ++ ": bad trap\n".toList)
      finish 1
    | some signal => do
      modify fun s => { s with
        traps := (action.toList.map (signal, ·)) ++ s.traps.filter (·.1 != signal) }
      setTraps action words

def trap (args : List Text) : Effect Unit :=
  withOptions "" "" args fun _ args => do
    finish 0
    match args with
    | [] => print (trapList (← get).traps)
    | [word] => setTraps none [word]
    | action :: words =>
      if action = ['-'] then setTraps none words
      else if (Arithmetic.natural? action).isSome then setTraps none (action :: words)
      else setTraps (some action) words

/-- The job that a word names. -/
def job? (s : State) (word : Text) : Option Nat :=
  match word with
  | '%' :: rest =>
    if rest.isEmpty || rest = ['%'] || rest = ['+'] then s.lastJob
    else ((Arithmetic.natural? rest).bind fun n => (ownJobs s)[n - 1]?).map (·.number)
  | _ => none

/-- Sends a signal to a process; whether there is one. -/
def send (signal : Nat) (number : Text) : Effect Bool := do
  let s ← get
  let group := (s.above.getLast?).getD s.number
  if number = ['0'] || number = '-' :: group then do
    if signal != 0 then do
      modify fun s => { s with jobs := s.jobs.map (Job.struck signal) }
      strikeAll signal
    pure true
  else if number = s.number && !s.isPart then do
    if signal != 0 then strike signal
    pure true
  else if number = s.number || s.above.contains number ||
      s.jobs.any (fun j => decimal j.number == number) then do
    if signal != 0 then modify fun s => { s with signals := s.signals ++ [(number, signal)] }
    takeSignals
    pure true
  else pure false

/-- Sends a signal to the processes that some words name. -/
def sendAll (signal : Nat) : List Text → Effect Unit
  | [] => pure ()
  | word :: words => do
    let s ← get
    let number := match word with
      | '%' :: _ => (job? s word).map fun n => decimal n
      | '-' :: rest => if (Arithmetic.natural? rest).isSome then some word else none
      | _ => if (Arithmetic.natural? word).isSome then some word else none
    match number with
    | none =>
      refuse (if word.head? = some '%' then "No such job: ".toList ++ word
        else "Illegal number: ".toList ++ (if word.head? = some '-' then word.drop 1 else word))
    | some number => do
      if !(← send signal number) then
        complain "No such process\n".toList
        if ← isOn then finish 1
      if ← isOn then sendAll signal words

def killUsage : Text :=
  "Usage: kill [-s sigspec | -signum | -sigspec] [pid | job]... or\nkill -l [exitstatus]".toList

def kill (args : List Text) : Effect Unit := do
  let short := match args.head? with
    | some ('-' :: name) => if name.isEmpty then none else Signal.number? name
    | _ => none
  match short with
  | some signal =>
    if (args.drop 1).isEmpty then refuse killUsage
    else do
      finish 0
      sendAll signal (args.drop 1)
  | none => withOptions "l" "s" args fun options args => do
    finish 0
    if options.has 'l' then
      match args.head? with
      | none => printLine (['\n'].intercalate
          (['0'] :: ((List.range Signal.limit).drop 1).map fun n => (Signal.name n).toList))
      | some word => withNumber word fun n => do
        let n := if 128 < n then n - 128 else n
        if 0 < n && n < Signal.limit then printLine (Signal.name n).toList
        else refuse ("invalid signal number or exit status: ".toList ++ word)
    else match options.last? 's' with
      | some name =>
        match Signal.number? name with
        | none => refuse ("invalid signal number or name: ".toList ++ name)
        | some signal => if args.isEmpty then refuse killUsage else sendAll signal args
      | none => if args.isEmpty then refuse killUsage else sendAll 15 args

/-- What was waited for so long that the shell was asked to end meanwhile. -/
def interrupted : Effect Bool := do
  let s ← get
  match s.caught with
  | signal :: _ => do
    finish (128 + signal).toUInt8
    pure true
  | [] => pure (s.flow != .on)

/-- Waits for one job. -/
def waitFor (bound : Nat) (number : Nat) : Effect Unit := do
  let isOver (s : State) := s.finished.any (·.1 == number)
  let wasOver := isOver (← get)
  if !(ownJobs (← get)).any (·.number == number) && !wasOver then finish 127
  else do
    elapse isOver bound none
    if !(← interrupted) then
      match (← get).finished.lookup number with
      | some status => if wasOver then finish status.code.toInt.toNat.toUInt8 else conclude status
      | none => finish 127

def wait (bound : Nat) (args : List Text) : Effect Unit :=
  withOptions "" "" args fun _ args => do
    finish 0
    if args.isEmpty then do
      elapse (fun s => (ownJobs s).isEmpty) bound none
      let _ ← interrupted
    else onEach (fun word => do
      match job? (← get) word with
      | some number => waitFor bound number
      | none =>
        if word.head? = some '%' then refuse ("No such job: ".toList ++ word)
        else withNumber word (waitFor bound)) args

def jobs (_ : List Text) : Effect Unit := do
  let s ← get
  finish 0
  print ((ownJobs s).zipIdx.flatMap fun (_, i) =>
    '[' :: decimal (i + 1) ++ "] + Running                    \n".toList)

/-! ## Commands -/

/-- A built-in command by its name. -/
def byName? (bound : Nat) (name : Text) : Option (List Text → Effect Unit) :=
  match String.ofList name with
  | "echo" => some echo
  | "printf" => some printf
  | "test" => some test
  | "[" => some bracket
  | "read" => some read
  | ":" | "true" | "alias" | "unalias" => some fun _ => finish 0
  | "false" => some fun _ => finish 1
  | "export" => some export_
  | "readonly" => some readonly
  | "local" => some localize
  | "unset" => some unset
  | "shift" => some shift
  | "set" => some set
  | "getopts" => some getopts
  | "break" => some (leave false)
  | "continue" => some (leave true)
  | "return" => some (leaveWith .return_)
  | "exit" => some exit
  | "cd" | "chdir" => some cd
  | "pwd" => some pwd
  | "umask" => some umask
  | "ulimit" => some ulimit
  | "trap" => some trap
  | "kill" => some kill
  | "wait" => some (wait bound)
  | "jobs" => some jobs
  | "fg" | "bg" => some fun _ => refuse "No current job".toList
  | "times" => some fun _ => do
    finish 0
    print "0m0.000000s 0m0.000000s\n0m0.000000s 0m0.000000s\n".toList
  | _ => none

end DebugAdapter.Shell.Builtin
