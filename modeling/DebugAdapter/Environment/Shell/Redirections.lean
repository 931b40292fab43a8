import DebugAdapter.Environment.Shell.Words

/-! # Redirections

Where the streams of commands lead. -/

namespace DebugAdapter.Shell

open Effect

/-! ## Opening -/

/-- The stream that a path stands for. -/
def streamOf? (path : Text) : Option Nat :=
  match String.ofList path with
  | "/dev/stdin" => some 0
  | "/dev/stdout" => some 1
  | "/dev/stderr" => some 2
  | _ => ["/dev/fd/", "/proc/self/fd/"].findSome? fun before =>
    if before.toList.isPrefixOf path then Arithmetic.natural? (path.drop before.length) else none

/-- Leads a stream somewhere else. -/
def lead (stream : Nat) (target : Option Target) : Effect Unit := modify fun s =>
  { s with
    streams := (target.map (stream, ·)).toList ++ s.streams.filter (·.1 != stream)
    inputs := s.inputs.filter (·.1 != stream) }

/-- Gives a stream to read from a text. -/
def feed (stream : Nat) (text : Text) : Effect Unit := modify fun s =>
  if stream = 0 then { s with input := text }
  else { s with
    inputs := (stream, text) :: s.inputs.filter (·.1 != stream)
    streams := s.streams.filter (·.1 != stream) }

/-- Makes a stream the same as another one; whether there is one. -/
def copy (stream source : Nat) : Effect Bool := do
  let s ← get
  match s.streams.lookup source, if source = 0 then some s.input else s.inputs.lookup source with
  | some target, _ => do
    lead stream (some target)
    pure true
  | none, some text => do
    feed stream text
    pure true
  | none, none => do
    complain (decimal source ++ ": Bad file descriptor".toList)
    pure false

/-- Closes a stream. -/
def close (stream : Nat) : Effect Unit := do
  lead stream none
  if stream = 0 then modify ({ · with input := [] })

/-- Why a file cannot be opened, in the words of the shell. -/
def openFailure (missing : String) : IoError → Text
  | .system .noEntry | .system .notDirectory => missing.toList
  | .system e => e.text.toList
  | e => e.message.toList

/-- Opens a file to read from it; whether that went well. -/
def openInput (stream : Nat) (path : Text) : Effect Bool := do
  match streamOf? path with
  | some source => copy stream source
  | none =>
    match (← get).files.read (toBytes path) none with
    | .ok bytes => do
      feed stream (ofBytes bytes)
      pure true
    | .error (.system .isDirectory) => do
      feed stream []
      pure true
    | .error e => do
      complain ("cannot open ".toList ++ path ++ ": ".toList ++ openFailure "No such file" e)
      pure false

/-- Opens a file to write to it; whether that went well. -/
def openOutput (stream : Nat) (opening : Opening) (path : Text) : Effect Bool := do
  match streamOf? path with
  | some source => copy stream source
  | none =>
    let s ← get
    let refuse (why : Text) : Effect Bool := do
      complain ("cannot create ".toList ++ path ++ ": ".toList ++ why)
      pure false
    let opened (target : Target) : Effect Bool := do
      lead stream (some target)
      pure true
    match s.files.find (toBytes path) with
    | .ok .null | .ok .zeros => opened .nowhere
    | .ok .full => opened .full
    | found =>
      let exists_ := match found with
        | .ok _ => true
        | .error _ => false
      if opening = .writing && s.has 'C' && exists_ then refuse "File exists".toList
      else match s.files.write (toBytes path) [] (opening = .appending || opening = .updating) with
        | .ok files => do
          modify ({ · with files })
          opened (.file path)
        | .error e => refuse (openFailure "Directory nonexistent" e)

/-- The stream that a redirection is about. -/
def Redirection.stream : Redirection → Nat
  | .file stream .. | .copy stream _ | .copyOf stream _ | .document stream _ => stream

/-- The streams after redirections that last no longer. What was read from an input that was used
instead of the standard one stays read. -/
def withoutRedirections (redirections : List Redirection) (s t : State) : State :=
  let touched := redirections.map Redirection.stream
  let isTouched (n : Nat) := touched.contains n
  let source := redirections.findSome? fun
    | .copy 0 (some n) => if (s.inputs.lookup n).isSome && n != 0 then some n else none
    | _ => none
  let inputs := t.inputs.filter (fun i => !isTouched i.1) ++ s.inputs.filter (isTouched ·.1)
  { t with
    streams := t.streams.filter (fun i => !isTouched i.1) ++ s.streams.filter (isTouched ·.1)
    inputs := match source with
      | some n => (n, t.input) :: inputs.filter (·.1 != n)
      | none => inputs
    input := if isTouched 0 then s.input else t.input }

/-! ## Redirections of commands -/

/-- Performs a redirection; whether that went well. -/
def redirect (output : Command → Effect Text) : Redirection → Effect Bool
  | .file stream opening name => do
    let path ← expandText output name
    if !(← isOn) then pure false
    else if opening = .reading then openInput stream path
    else if opening = .updating then do
      if ← openOutput stream opening path then openInput stream path else pure false
    else openOutput stream opening path
  | .copy stream none => do
    close stream
    pure true
  | .copy stream (some source) => copy stream source
  | .copyOf stream word => do
    match ← expandText output word with
    | ['-'] => do
      close stream
      pure true
    | text =>
      match text, Arithmetic.natural? text with
      | [_], some source => copy stream source
      | _, _ => do
        if ← isOn then do
          modify fun s => { s with line := s.readTo }
          abort 2 "Syntax error: Bad fd number".toList
        pure false
  | .document stream text => do
    feed stream (← expandText output text)
    isOn

/-- Performs redirections; whether all of them went well. -/
def redirectAll (output : Command → Effect Text) : List Redirection → Effect Bool
  | [] => pure true
  | one :: rest => do
    if ← redirect output one then redirectAll output rest else pure false

end DebugAdapter.Shell
