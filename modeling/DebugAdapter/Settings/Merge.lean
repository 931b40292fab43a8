import DebugAdapter.Settings.FileSettings
import DebugAdapter.Transport.Address

/-! # Settings

What the command line says goes before what a file says, one setting at a time. The program is
a single setting, however it is named. -/

namespace DebugAdapter.Settings

open Evaluation (Program)
open Transport (Address AddressError)

/-- What a command line sets. -/
structure Arguments where
  listen : Option String := none
  oneshot : Bool := false
  logFile : Option String := none
  traceTraffic : Bool := false
  /-- The file with further settings. -/
  file : Option String := none
  interpreter : Option String := none
  sourceFlag : Option String := none
  source : Option String := none
  path : Option String := none
  deriving DecidableEq, Repr

inductive SettingsError where
  | address (text : String) (e : AddressError)
  /-- The command line names two programs. -/
  | twoPrograms
  /-- The file names two programs, and the command line none. -/
  | twoProgramsInFile
  | noProgram
  | load (e : LoadError)
  deriving DecidableEq, Repr

/-- The causes of an error, the outermost one first. What is wrong with a malformed file is
left out. -/
def SettingsError.causes : SettingsError → List String
  | .address text e => ["invalid listen address " ++ Text.quoted text, e.message]
  | .twoPrograms => ["both inline source and program path are given"]
  | .twoProgramsInFile => ["config file sets both `eval` and `path`"]
  | .noProgram => ["nothing to evaluate, pass --eval <SOURCE> or a program path"]
  | .load (.unreadable path e) => ["read config file " ++ path, e.message]
  | .load (.malformed path) => ["parse config file " ++ path]

/-- Where to listen if nobody says so. -/
def usualAddress : String := "tcp://127.0.0.1:4711"

/-- The program that is named by its text or by a path. -/
def chooseProgram (both neither : Except SettingsError Program) :
    Option String → Option String → Except SettingsError Program
  | some source, none => .ok (.source source)
  | none, some path => .ok (.path path)
  | some _, some _ => both
  | none, none => neither

end DebugAdapter.Settings

namespace DebugAdapter

open Evaluation (Program)
open Transport (Address)

/-- The settings in effect. -/
structure Settings where
  listen : Address
  oneshot : Bool
  logFile : Option String
  traceTraffic : Bool
  program : Program
  interpreter : Interpreter
  deriving DecidableEq, Repr

namespace Settings

/-- The settings of a command line and a file. -/
def merge (args : Arguments) (file : FileSettings) : Except SettingsError Settings := do
  let address := (args.listen.or file.listen).getD usualAddress
  let listen ← (Address.parse address).mapError (.address address)
  let program ← chooseProgram (.error .twoPrograms)
    (chooseProgram (.error .twoProgramsInFile) (.error .noProgram) file.source file.path)
    args.source args.path
  let interpreter : Interpreter := {
    command := args.interpreter.getD file.interpreter.command
    sourceFlag := args.sourceFlag.getD file.interpreter.sourceFlag
    arguments := file.interpreter.arguments }
  return {
    listen, program, interpreter
    oneshot := args.oneshot || file.oneshot
    logFile := args.logFile.or file.logFile
    traceTraffic := args.traceTraffic || file.traceTraffic }

/-- The settings of a command line and the file that it names or that is at the usual place. -/
def load {m : Type → Type} [Monad m] (look : String → m (Except IoError Bytes))
    (home : Option String) (args : Arguments) : m (Except SettingsError Settings) := do
  match ← FileSettings.load look home args.file with
  | .ok file => pure (merge args file)
  | .error e => pure (.error (.load e))

end Settings

end DebugAdapter
