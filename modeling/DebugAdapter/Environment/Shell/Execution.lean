import DebugAdapter.Environment.Shell.Compound
import DebugAdapter.Environment.Shell.Redirections
import DebugAdapter.Environment.Shell.Utility.Runners

/-! # Running shell programs

The first argument of every function that recurs here bounds the depth of the recursion. A program
that needs more is ended. -/

namespace DebugAdapter.Shell

open Effect

/-! ## Actions in other circumstances -/

/-- What an action prints. -/
def collect (room : Option Nat) (act : Effect Unit) : Effect Text := do
  let s ← get
  modify fun s => { s with
    collected := [], room, streams := (1, .collected) :: s.streams.filter (·.1 != 1) }
  act
  let text := (← get).collected.reverse
  modify ({ · with collected := s.collected, room := s.room, streams := s.streams })
  return text

/-- An action with an input of its own. -/
def withInput (input : Text) (act : Effect Unit) : Effect Unit := do
  let s ← get
  modify ({ · with input })
  act
  modify ({ · with input := s.input })

/-- An action inside a built-in command. -/
def inside (name : Text) (act : Effect Unit) : Effect Unit := do
  let s ← get
  modify ({ · with within := some name })
  act
  modify ({ · with within := s.within })

/-- Waits for the jobs whose output is being collected. -/
def drain (bound : Nat) : Effect Unit :=
  elapse (fun s => !(ownJobs s).any (·.collects)) bound none

/-- Gives variables their values from before. -/
def restore (saved : List (Text × Option Text)) : Effect Unit := modify fun s =>
  { s with
    bindings := saved.foldl (fun bindings (name, value) =>
      (value.map (name, ·)).toList ++ bindings.filter (·.1 != name)) s.bindings
    known := if saved.any (·.1 == "PATH".toList) then [] else s.known }

/-- The options and the words with which a shell was called. -/
structure ShellCall where
  options : List Char
  /-- Whether the first word is the program. -/
  isText : Bool
  words : List Text

/-- What the arguments of a shell say. -/
def ShellCall.ofArguments (args : List Text) : Except Text ShellCall :=
  let switches := Builtin.switch ['c', 'l'] args []
  match switches.fault with
  | some message => .error message
  | none =>
    let options := switches.on.filter fun c => c != 'c' && c != 'l'
    let words := switches.parameters.getD []
    if switches.on.contains 'c' && words.isEmpty then .error "-c requires an argument".toList
    else .ok { options, isText := switches.on.contains 'c', words }

/-! ## Commands and texts -/

mutual

/-- What a command prints that is a part of a word. -/
def substitute : Nat → Command → Effect Text
  | 0, _ => exhausted
  | bound + 1, command => collect none do
    let status ← inProcess ({ · with tested := false }) do
      run bound command
      atExit bound
      drain bound
    let before := (← get).status
    conclude status
    modify fun s => { s with outputStatus := some s.status, status := before }

/-- Runs the rest of a program, one line of commands after the other. -/
def runRest : Nat → Rest → Effect Unit
  | 0, _ => exhausted
  | bound + 1, rest =>
    match Reader.line? (rest.text.length + 1) rest with
    | .error fault => do
      modify ({ · with line := fault.line })
      abort 2 ("Syntax error: ".toList ++ fault.error.message.toList)
    | .ok none => pure ()
    | .ok (some (command, rest)) => do
      modify ({ · with readTo := rest.line })
      if !(← get).has 'n' then run bound command
      if ← isOn then runRest bound rest

/-- Runs a program given as text. Afterwards the line is the one from before. -/
def runText : Nat → Text → Effect Unit
  | 0, _ => exhausted
  | bound + 1, text => do
    let line := (← get).line
    runRest bound { text }
    modify ({ · with line })

/-- Does what is to be done about the signals that arrived. -/
def handle : Nat → Effect Unit
  | 0 => exhausted
  | bound + 1 => do
    let s ← get
    match s.caught, s.flow with
    | signal :: others, .on => do
      modify ({ · with caught := others })
      match s.traps.lookup signal with
      | some action => do
        modify ({ · with within := none })
        runText bound action
        modify fun t => { t with
          within := s.within, status := if t.flow == .on then s.status else t.status }
        handle bound
      | none => handle bound
    | _, _ => pure ()

/-- What a shell does when it ends. -/
def atExit : Nat → Effect Unit
  | 0 => exhausted
  | bound + 1 => do
    let s ← get
    let isKilled := match s.flow with
      | .killed _ => true
      | _ => false
    match s.traps.lookup 0 with
    | some (c :: cs) =>
      if !isKilled then do
        modify fun s => { s with
          flow := .on, within := none, ending := some s.status
          traps := s.traps.filter (·.1 != 0) }
        runText bound (c :: cs)
        modify fun t => match t.flow with
          | .exit | .refused | .killed _ => t
          | _ => { t with status := s.status, flow := s.flow }
    | _ => pure ()

/-- Runs the program at a path in the current process, which calls itself by a name. -/
def execute : Nat → (path name : Text) → List Text → Effect Unit
  | 0, _, _, _ => exhausted
  | bound + 1, path, name, args => do
    modify ({ · with within := none, tested := false, line := 0 })
    match Utility.program? (← get) path with
    | .error _ => finish 126
    | .ok (.plain text) => shell bound name (some text) args
    | .ok (.script _ program arguments) => execute bound program program (arguments ++ path :: args)
    | .ok (.known known) =>
      match Utility.byName? bound known with
      | some utility => utility name args
      | none =>
        if ["sh", "dash", "bash"].contains known then shell bound name none args
        else Utility.runner (fun path name args => execute bound path name args) bound known name args

/-- A shell that was called by a name and runs a text, or what its arguments say. -/
def shell : Nat → (name : Text) → (text : Option Text) → List Text → Effect Unit
  | 0, _, _, _ => exhausted
  | bound + 1, name, text, args => do
    modify fun s =>
      let bindings := s.bindings.filter fun v => s.exported.contains v.1
      let given (key value : String) : List (Text × Text) :=
        if (bindings.lookup key.toList).isSome then [] else [(key.toList, value.toList)]
      { s with
        name, parameters := args, functions := [], constants := [], saved := [], calls := 0
        loops := 0, lettersRead := 0, known := [], options := [], lastJob := none, ending := none
        bindings := [("PPID".toList, if s.isPart then s.number else s.above.headD ['1']), ("OPTIND".toList, ['1']),
            ("IFS".toList, " \t\n".toList), ("PS4".toList, "+ ".toList)] ++
          given "PATH" "/usr/local/sbin:/usr/local/bin:/usr/sbin:/usr/bin:/sbin:/bin" ++
          ((bindings.filter fun v => v.1 != "PPID".toList && v.1 != "OPTIND".toList &&
            v.1 != "IFS".toList && v.1 != "PS4".toList))
        number := if s.isPart then decimal s.nextNumber else s.number
        above := if s.isPart then s.number :: s.above else s.above
        nextNumber := s.nextNumber + 1, isPart := false, status := 0 }
    match text with
    | some text => runRest bound { text }
    | none =>
      match ShellCall.ofArguments args with
      | .error message => abort 2 message
      | .ok call => do
        modify ({ · with options := call.options, parameters := call.words })
        Builtin.refuseControl
        if call.isText then
          match call.words with
          | text :: rest => do
            match rest with
            | name :: parameters => modify ({ · with name, parameters })
            | [] => modify ({ · with parameters := [] })
            runRest bound { text }
          | [] => pure ()
        else if call.words.isEmpty || call.options.contains 's' then do
          let text ← Utility.input
          modify fun s => { s with options := 's' :: s.options.erase 's' }
          runRest bound { text }
        else
          let file := call.words.headD []
          match ← Utility.contents file none with
          | .ok text => do
            modify ({ · with name := file, parameters := call.words.drop 1 })
            runRest bound { text }
          | .error (.system .isDirectory) => pure ()
          | .error e =>
            abort 2 ("cannot open ".toList ++ file ++ ": ".toList ++ openFailure "No such file" e)
    atExit bound

/-- Runs the program that a name stands for in a process of its own. -/
def runProgram : Nat → (name : Text) → List Text → Effect Unit
  | 0, _, _ => exhausted
  | bound + 1, name, args => do
    let s ← get
    match s.locate name with
    | .error missing => do
      complain (name ++ ": ".toList ++ missing.message.toList)
      finish (if name.isEmpty then 127 else missing.status)
    | .ok path => do
      remember name
      match Utility.startFault? s Utility.scriptLimit path (name :: args) with
      | none | some (.system .notProgram) => do
        let status ← inProcess (fun s => s) (execute bound path name args)
        conclude status
      | some e => do
        let missing := e = .system .noEntry
        complain (name ++ ": ".toList ++
          if missing then "not found".toList else Utility.errorText e)
        finish (if missing then 127 else 126)

/-- Runs a program in the place of the shell. -/
def replaceShell : Nat → List Text → Effect Unit
  | 0, _ => exhausted
  | _, [] => finish 0
  | bound + 1, name :: args => do
    let s ← get
    let failed (status : UInt8) (message : Text) : Effect Unit := do
      complain (name ++ ": ".toList ++ message)
      endWith status
    match s.locate name with
    | .error missing => failed missing.status missing.message.toList
    | .ok path =>
      match Utility.startFault? s Utility.scriptLimit path (name :: args) with
      | none | some (.system .notProgram) => do
        modify fun s => { s with traps := s.traps.filter fun (_, action) => action.isEmpty }
        execute bound path name args
        modify fun s => { s with
          traps := [], flow := match s.flow with
            | .killed signal => .killed signal
            | _ => .exit }
      | some e =>
        let missing := e = .system .noEntry
        failed (if missing then 127 else 126)
          (if missing then "not found".toList else Utility.errorText e)

-- Commands by their names.

/-- Runs a function. -/
def call : Nat → Command → List Text → Effect Unit
  | 0, _, _ => exhausted
  | bound + 1, body, args => do
    let s ← get
    if 1000 ≤ s.calls then
      abort 2 "Maximum function recursion depth (1000) reached".toList
    else do
      modify fun t => { t with
        parameters := args, lettersRead := 0, saved := [], calls := s.calls + 1, loops := 0 }
      run bound body
      restore (← get).saved
      modify fun t => { t with
        parameters := s.parameters, lettersRead := s.lettersRead, saved := s.saved
        calls := s.calls, loops := s.loops
        flow := if t.flow == .return_ then .on else t.flow }

/-- Runs the commands of a file. -/
def source : Nat → List Text → Effect Unit
  | 0, _ => exhausted
  | _, [] => finish 0
  | bound + 1, name :: _ => do
    let s ← get
    let path : Except Missing Text := if name.contains '/' then .ok name
      else match s.directories.find? fun d =>
          match s.files.find (toBytes (d ++ '/' :: name)) with
          | .ok (.file ..) => true
          | _ => false with
        | some d => .ok (d ++ '/' :: name)
        | none => .error .notFound
    match path with
    | .error missing => refuse (name ++ ": ".toList ++ missing.message.toList)
    | .ok path =>
      match ← Utility.contents path none with
      | .error e =>
        refuse ("cannot open ".toList ++ path ++ ": ".toList ++ openFailure "No such file" e)
      | .ok text => do
        finish 0
        inside path (runText bound text)
        modify fun t => { t with flow := if t.flow == .return_ then .on else t.flow }

/-- Runs a command that is no function. A failure of some built-in commands ends the shell. -/
def invoke : Nat → (lasting : Bool) → (name : Text) → List Text → Effect Unit
  | 0, _, _, _ => exhausted
  | bound + 1, lasting, name, args => do
    let builtin? : Option (Effect Unit) := match String.ofList name with
      | "eval" => some do
        finish 0
        runText bound (spaced args)
      | "." => some (source bound args)
      | "exec" => some (replaceShell bound args)
      | "type" => some (Builtin.type args)
      | "hash" => some (Builtin.hash args)
      | _ => (Builtin.byName? bound name).map (· args)
    match builtin? with
    | some act => do
      inside name act
      modify fun s => if s.flow == .refused && !lasting then { s with flow := .on } else s
    | none =>
      if name = "command".toList then
        match args with
        | ['-', 'v'] :: rest => inside name (Builtin.describe false rest)
        | ['-', 'V'] :: rest => inside name (Builtin.describe true rest)
        | ['-', 'p'] :: rest | ['-', '-'] :: rest | rest =>
          match rest with
          | name :: args => invoke bound false name args
          | [] => finish 0
      else runProgram bound name args

/-- Runs a command given by its fields, with some variables. It is shown where messages went
before its redirections. -/
def perform : Nat → (before : List (Nat × Target)) → List (Text × Word) → (name : Text) →
    List Text → Effect Unit
  | 0, _, _, _, _ => exhausted
  | bound + 1, before, assignments, name, args => do
    let s ← get
    let lasting := isLasting name
    let values ← assignAll (fun c => substitute bound c) assignments
    if ← isOn then
      modify ({ · with streams := before })
      trace (values.map (fun (name, value) => name ++ '=' :: value) ++ name :: args)
      modify ({ · with streams := s.streams })
      if !lasting then modify fun s => { s with
        exported := (values.map (·.1)).filter (!s.exported.contains ·) ++ s.exported }
      match s.functions.lookup name with
      | some body => if lasting then invoke bound true name args else call bound body args
      | none => invoke bound lasting name args
      if !lasting then
        restore (values.map fun (name, _) => (name, s.bindings.lookup name))
        let names := values.map (·.1)
        let isKept (name : Text) := s.exported.contains name || !names.contains name
        modify fun t => { t with exported := t.exported.filter isKept }

/-- Runs a command. -/
def run : Nat → Command → Effect Unit
  | 0, _ => exhausted
  | bound + 1, .simple line assignments words redirections => do
    modify fun s => { s with line := if line = 0 then s.line else line, outputStatus := none }
    let fields ← expandAll (fun c => substitute bound c) words
    if ← isOn then
      let s ← get
      let lastingOf (name : Text) : Bool :=
        isLasting name && (s.functions.lookup name).isNone
      let opened ← redirectAll (fun c => substitute bound c) redirections
      if ← isOn then
        match fields with
        | [] =>
          if opened then do
            let values ← assignAll (fun c => substitute bound c) assignments
            if ← isOn then
              if !values.isEmpty then
                let streams := (← get).streams
                modify ({ · with streams := s.streams })
                trace (values.map fun (name, value) => name ++ '=' :: value)
                modify ({ · with streams })
              finish ((← get).outputStatus.getD 0)
          else finish 2
        | name :: args =>
          if opened then perform bound s.streams assignments name args
          else modify fun t => { t with status := 2, flow := if lastingOf name then .refused else .on }
      let isExec := fields = ["exec".toList] && opened
      if !isExec then modify (withoutRedirections redirections s)
    handle bound
    check
  | bound + 1, .redirected line command redirections => do
    modify ({ · with line })
    let s ← get
    if ← redirectAll (fun c => substitute bound c) redirections then run bound command
    else if ← isOn then finish 2
    modify (withoutRedirections redirections s)
  | bound + 1, .sequence first second => do
    run bound first
    if ← isOn then run bound second
  | bound + 1, .background line command => do
    modify ({ · with line })
    spawn [] do
      run bound command
      atExit bound
  | bound + 1, .andThen first second => do
    testing (run bound first)
    let s ← get
    if s.flow == .on && s.status == 0 then run bound second
  | bound + 1, .orElse first second => do
    testing (run bound first)
    let s ← get
    if s.flow == .on && s.status != 0 then run bound second
  | bound + 1, .negation command => do
    testing (run bound command)
    modify fun s =>
      if s.flow == .on then { s with status := if s.status == 0 then 1 else 0 } else s
  | bound + 1, .pipe first second => do
    for name in Command.pipeNames (.pipe first second) do remember name
    let before := (← get).status
    let text ← collect (some pipeRoom) do
      let status ← inProcess (fun s => s) do
        run bound first
        atExit bound
        drain bound
      conclude status
    finish before
    withInput text do
      let status ← inProcess (fun s => s) do
        run bound second
        atExit bound
      conclude status
    handle bound
    check
  | bound + 1, .subshell line command => do
    modify ({ · with line })
    let status ← inProcess (fun s => s) do
      run bound command
      atExit bound
    conclude status
    handle bound
    check
  | bound + 1, .choose test yes no => do
    testing (run bound test)
    let s ← get
    if s.flow == .on then
      if s.status == 0 then run bound yes
      else match no with
        | some no => run bound no
        | none => finish 0
  | bound + 1, .loop while_ test body => 
    looping (repeated while_ (run bound test) (run bound body) bound 0)
  | bound + 1, .each line name words body => do
    modify ({ · with line })
    let s ← get
    let fields ← match words with
      | some words => expandAll (fun c => substitute bound c) words
      | none => pure s.parameters
    if ← isOn then
      finish 0
      looping (passes bound name (run bound body) fields)
  | bound + 1, .select line word clauses => do
    modify ({ · with line })
    let text ← expandText (fun c => substitute bound c) word
    if ← isOn then pick (fun c => substitute bound c) (fun c => run bound c) text clauses
  | _ + 1, .define name body => modify fun s =>
    { s with functions := (name, body) :: s.functions.filter (·.1 != name), status := 0 }

end

end DebugAdapter.Shell
