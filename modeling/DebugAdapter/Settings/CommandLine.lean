import DebugAdapter.Settings.Merge

/-! # The command line

Words are read from left to right. An option takes its value from the same word or from the
next one; a value that has a word of its own is checked only when the option is complete, which
is when the next option, path or the end comes. Options that were not given take their value
from the environment. -/

namespace DebugAdapter.Settings

/-- Why a command line sets nothing. -/
inductive UsageError where
  | helpWanted
  | versionWanted
  | unknownArgument
  | invalidValue
  /-- A value for an option that takes none. -/
  | tooManyValues
  /-- An option given twice, or two that exclude each other. -/
  | conflict
  deriving DecidableEq, Repr

/-- What a word on the command line can be about. -/
inductive Parameter where
  | listen
  | oneshot
  | logFile
  | traceTraffic
  | file
  | interpreter
  | sourceFlag
  | source
  | path
  | help
  | version
  deriving DecidableEq, Repr

namespace Parameter

/-- All of them, in the order in which the environment is looked at. -/
def all : List Parameter :=
  [.listen, .oneshot, .logFile, .traceTraffic, .file, .interpreter, .sourceFlag, .source, .path,
    .help, .version]

/-- The name after two dashes. A path has none. -/
def long? : Parameter → Option String
  | .listen => some "listen"
  | .oneshot => some "oneshot"
  | .logFile => some "log-file"
  | .traceTraffic => some "trace-dap"
  | .file => some "config"
  | .interpreter => some "interpreter"
  | .sourceFlag => some "source-flag"
  | .source => some "eval"
  | .path => none
  | .help => some "help"
  | .version => some "version"

/-- The letter after one dash. -/
def short? : Parameter → Option Char
  | .source => some 'e'
  | .help => some 'h'
  | .version => some 'V'
  | _ => none

/-- The variable that gives the value if the command line does not. -/
def variableName? : Parameter → Option String
  | .listen => some "YADAP_LISTEN"
  | .oneshot => some "YADAP_ONESHOT"
  | .logFile => some "YADAP_LOG_FILE"
  | .traceTraffic => some "YADAP_TRACE_DAP"
  | .file => some "YADAP_CONFIG"
  | .interpreter => some "YADAP_INTERPRETER"
  | .sourceFlag => some "YADAP_SOURCE_FLAG"
  | _ => none

/-- Whether it takes a value. -/
def takesValue : Parameter → Bool
  | .oneshot | .traceTraffic | .help | .version => false
  | _ => true

/-- Whether its value may look like an option. -/
def takesDashes : Parameter → Bool
  | .sourceFlag => true
  | _ => false

/-- Whether a word is a value for it. A file has a name, and a switch is on or off. -/
def accepts : Parameter → String → Bool
  | .logFile, v | .file, v | .path, v => !v.isEmpty
  | .oneshot, v | .traceTraffic, v => v == "true" || v == "false"
  | _, _ => true

def ofLong? (name : String) : Option Parameter := all.find? (·.long? == some name)

def ofShort? (letter : Char) : Option Parameter := all.find? (·.short? == some letter)

end Parameter

/-- What was read of a command line. -/
structure Reading where
  given : List (Parameter × String) := []
  /-- The last parameter with its value, as long as it is not checked. -/
  pending : Option (Parameter × Option String) := none
  /-- Whether only paths may follow. -/
  onlyPaths : Bool := false
  deriving DecidableEq, Repr

namespace Reading

/-- A parameter with its value. -/
def accept (r : Reading) (p : Parameter) (value : String) : Except UsageError Reading :=
  if (r.given.lookup p).isSome then .error .conflict
  else if p.accepts value then .ok { r with given := r.given ++ [(p, value)] }
  else .error .invalidValue

/-- The pending parameter is complete. -/
def complete (r : Reading) : Except UsageError Reading :=
  match r.pending with
  | none => .ok r
  | some (p, some value) => { r with pending := none }.accept p value
  | some (_, none) => .error .invalidValue

/-- A parameter that needs nothing more, after the pending one. -/
def give (r : Reading) (p : Parameter) (value : String) : Except UsageError Reading := do
  (← r.complete).accept p value

/-- A parameter without a value of its own. -/
def switch (r : Reading) : Parameter → Except UsageError Reading
  | .help => do let _ ← r.complete; .error .helpWanted
  | .version => do let _ ← r.complete; .error .versionWanted
  | p => r.give p "true"

/-- A parameter whose value is the next word. -/
def await (r : Reading) (p : Parameter) : Except UsageError Reading := do
  return { ← r.complete with pending := some (p, none) }

/-- The letters after one dash. The first one that takes a value takes the letters after it. -/
def letters (r : Reading) : List Char → Except UsageError Reading
  | [] => .ok r
  | letter :: rest =>
    match Parameter.ofShort? letter with
    | none => .error .unknownArgument
    | some p =>
      if p.takesValue then
        match rest with
        | [] => r.await p
        | '=' :: value => r.give p (String.ofList value)
        | value => r.give p (String.ofList value)
      else do letters (← r.switch p) rest

/-- A name after two dashes, with the value after an equals sign. -/
def named (r : Reading) (name : String) (value : Option String) : Except UsageError Reading :=
  match Parameter.ofLong? name, value with
  | none, _ => .error .unknownArgument
  | some p, none => if p.takesValue then r.await p else r.switch p
  | some p, some value => if p.takesValue then r.give p value else .error .tooManyValues

/-- A word that is no option: a path, of which there may be one. -/
def path (r : Reading) (word : String) : Except UsageError Reading :=
  if (r.given.lookup .path).isSome ∨ r.pending.any (·.1 = .path) then .error .unknownArgument
  else do return { ← r.complete with pending := some (.path, some word) }

/-- The text before the first equals sign, and the text after it. -/
def splitValue (text : List Char) : String × Option String :=
  match text.span (· != '=') with
  | (name, _ :: value) => (String.ofList name, some (String.ofList value))
  | (name, []) => (String.ofList name, none)

/-- The parameter that the next word may be the value of. -/
def awaiting? (r : Reading) : Option Parameter :=
  match r.pending with
  | some (p, none) => if r.onlyPaths then none else some p
  | _ => none

/-- A value or a path. -/
def plain (r : Reading) (word : String) : Except UsageError Reading :=
  match r.awaiting? with
  | some p => .ok { r with pending := some (p, some word) }
  | none => r.path word

/-- One word of a command line. -/
def word (r : Reading) (word : String) : Except UsageError Reading :=
  if r.onlyPaths || r.awaiting?.any (·.takesDashes) then r.plain word
  else match word.toList with
    | ['-', '-'] => .ok { r with onlyPaths := true }
    | '-' :: '-' :: text => let (name, value) := splitValue text; r.named name value
    | '-' :: c :: cs => r.letters (c :: cs)
    | _ => r.plain word

/-- A parameter that was not given, from its variable. -/
def look (environment : String → Option String) (r : Reading) (p : Parameter) :
    Except UsageError Reading :=
  match r.given.lookup p, p.variableName?.bind environment with
  | none, some value => r.accept p value
  | _, _ => .ok r

/-- Whether a switch is on. -/
def isOn (r : Reading) (p : Parameter) : Bool := r.given.lookup p == some "true"

def arguments (r : Reading) : Arguments where
  listen := r.given.lookup .listen
  oneshot := r.isOn .oneshot
  logFile := r.given.lookup .logFile
  traceTraffic := r.isOn .traceTraffic
  file := r.given.lookup .file
  interpreter := r.given.lookup .interpreter
  sourceFlag := r.given.lookup .sourceFlag
  source := r.given.lookup .source
  path := r.given.lookup .path

end Reading

/-- What a command line sets in an environment. -/
def Arguments.parse (environment : String → Option String) (words : List String) :
    Except UsageError Arguments := do
  let r ← words.foldlM Reading.word {}
  let r ← r.complete
  let r ← Parameter.all.foldlM (Reading.look environment) r
  if r.arguments.source.isSome && r.arguments.path.isSome then .error .conflict
  else .ok r.arguments

end DebugAdapter.Settings
