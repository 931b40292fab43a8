import DebugAdapter.Interpreter.Basic
import DebugAdapter.Stream.Error
import DebugAdapter.Text.Utf8
import DebugAdapter.Toml.Reader

/-! # Settings in a file

A TOML document with a few known keys, all of them optional. Values have to be of the right
kind, and only the table of the interpreter may have keys that nobody knows. -/

namespace DebugAdapter.Settings

/-- What a file sets. -/
structure FileSettings where
  listen : Option String := none
  oneshot : Bool := false
  logFile : Option String := none
  traceTraffic : Bool := false
  source : Option String := none
  path : Option String := none
  interpreter : Interpreter := {}
  deriving DecidableEq, Repr

open Toml (Value)

def text? : Value → Option String
  | .text s => some s
  | _ => none

def flag? : Value → Option Bool
  | .boolean b => some b
  | _ => none

def texts? : Value → Option (List String)
  | .array items => items.mapM text?
  | _ => none

/-- An interpreter with one of its settings, a key that nobody knows leaves it as it is. -/
def setInterpreter (i : Interpreter) (key : String) (value : Value) : Option Interpreter :=
  match key with
  | "interpreter" => (text? value).map ({ i with command := · })
  | "source-flag" => (text? value).map ({ i with sourceFlag := · })
  | "args" => (texts? value).map ({ i with arguments := · })
  | _ => some i

/-- The keys of an interpreter, in the order of its settings in a list. -/
def interpreterKeys : List String := ["interpreter", "source-flag", "args"]

/-- The settings of an interpreter: a table, or a list of the values without their keys. A date
counts as a table with an unknown key. -/
def interpreter? : Value → Option Interpreter
  | .table _ entries => entries.foldlM (fun i (key, value) => setInterpreter i key value) {}
  | .array items =>
    (interpreterKeys.zip items).foldlM (fun i (key, value) => setInterpreter i key value) {}
  | .moment _ => some {}
  | _ => none

namespace FileSettings

/-- The settings with one more key. -/
def set (s : FileSettings) (key : String) (value : Value) : Option FileSettings :=
  match key with
  | "listen" => (text? value).map ({ s with listen := some · })
  | "oneshot" => (flag? value).map ({ s with oneshot := · })
  | "log-file" => (text? value).map ({ s with logFile := some · })
  | "trace-dap" => (flag? value).map ({ s with traceTraffic := · })
  | "eval" => (text? value).map ({ s with source := some · })
  | "path" => (text? value).map ({ s with path := some · })
  | "engine" => (interpreter? value).map ({ s with interpreter := · })
  | _ => none

/-- The settings in the text of a file. -/
def parse (text : String) : Option FileSettings := do
  match ← Toml.parse text with
  | .table _ entries => entries.foldlM (fun s (key, value) => set s key value) {}
  | _ => none

end FileSettings

/-! ## Finding the file -/

/-- Whether there is something at a path where a look got this result. -/
def isThere : Except IoError Bytes → Bool
  | .ok _ | .error (.system .isDirectory) | .error (.system .accessDenied) => true
  | .error _ => false

/-- Why there are no settings. -/
inductive LoadError where
  | unreadable (path : String) (e : IoError)
  | malformed (path : String)
  deriving DecidableEq, Repr

/-- A path below a directory. -/
def below (directory relative : String) : String :=
  if directory.isEmpty || directory.endsWith "/" then directory ++ relative
  else directory ++ "/" ++ relative

/-- Where the file is if nobody says so, below the home directory. -/
def usualPath : String := ".config/yadap/config.toml"

namespace FileSettings

/-- The settings in a file that was looked at. -/
def ofFile (path : String) : Except IoError Bytes → Except LoadError FileSettings
  | .error e => .error (.unreadable path e)
  | .ok bytes =>
    match Utf8.decode? bytes with
    | none => .error (.unreadable path .notText)
    | some text =>
      match parse text with
      | some s => .ok s
      | none => .error (.malformed path)

/-- The settings in the given file, or in the one at the usual place if it is there. -/
def load {m : Type → Type} [Monad m] (look : String → m (Except IoError Bytes))
    (home given : Option String) : m (Except LoadError FileSettings) :=
  match given, home with
  | some path, _ => ofFile path <$> look path
  | none, some home => do
    let path := below home usualPath
    let found ← look path
    pure (if isThere found then ofFile path found else .ok {})
  | none, none => pure (.ok {})

end FileSettings

end DebugAdapter.Settings
