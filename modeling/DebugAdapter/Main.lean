import DebugAdapter.Environment.Shell.Programs
import DebugAdapter.Evaluation.System
import DebugAdapter.Interpreter.Script
import DebugAdapter.Settings.CommandLine

/-! # The command line program

Serves one session on the standard streams. The program of the session is evaluated by the
programs that `Environment.Shell` emulates in place of those of the system. -/

namespace DebugAdapter.Main

open Settings Evaluation

def version : String := "yadap 0.1.0"

def help : String := "\n".intercalate [
  "YADAP is a lightweight Debug Adapter Protocol server for embedded evaluation engines.",
  "",
  "Usage: yadap [OPTIONS] [PATH]",
  "",
  "Arguments:",
  "  [PATH]  Program file to evaluate",
  "",
  "Options:",
  "      --listen <LISTEN>            Address to listen on",
  "      --oneshot                    Exit after the first debug session ends",
  "      --log-file <LOG_FILE>        Optional log file for adapter diagnostics",
  "      --trace-dap                  Trace DAP traffic into the log file",
  "      --config <CONFIG>            Configuration file",
  "      --interpreter <INTERPRETER>  Interpreter that evaluates programs",
  "      --source-flag <SOURCE_FLAG>  Interpreter flag preceding inline source",
  "  -e, --eval <EVAL>                Evaluate inline source",
  "  -h, --help                       Print help",
  "  -V, --version                    Print version"]

def usageMessage : UsageError → String
  | .helpWanted => help
  | .versionWanted => version
  | .unknownArgument => "error: unexpected argument found"
  | .invalidValue => "error: a value is missing or invalid"
  | .tooManyValues => "error: unexpected value for an option that takes none"
  | .conflict => "error: arguments cannot be used together"

/-- Reads a file for the settings. -/
def look (path : String) : IO (Except IoError Bytes) := do
  try
    return .ok (← IO.FS.readBinFile path).toList
  catch
    | .inappropriateType .. => return .error (.system .isDirectory)
    | .permissionDenied .. => return .error (.system .accessDenied)
    | _ => return .error (.system .noEntry)

/-- The script of the program, with the file that it is in. -/
def scriptOf (s : Settings) : IO Script := do
  let tree ← match s.program with
    | .path file => do
      match ← look file with
      | .ok bytes => pure (Shell.usualTree.put (Files.Tree.place file) (.file bytes false))
      | .error _ => pure Shell.usualTree
    | .source _ => pure Shell.usualTree
  return match Shell.child tree [] s.interpreter s.program with
    | .error outcome => .finish outcome
    | .ok child => child.script [] []

/-- Appends to the log file what was traced since a number of records. -/
def logTrace (file : Option String) (since : Nat) (s : System) : IO Unit := do
  match file with
  | none => pure ()
  | some file => do
    let handle ← IO.FS.Handle.mk file .append
    for record in s.outbox.journal.trace.drop since do
      handle.putStrLn record.text

/-- Serves the client until the session is over. -/
partial def serve (input output : IO.FS.Stream) (log : Option String) (s : System) :
    IO System := do
  let chunk ← input.read 8192
  let received := if chunk.isEmpty then s.hangUp else s.deliver chunk.toList
  let after := received.settle 100000000
  for frame in after.outbox.sink.received.drop s.outbox.sink.received.length do
    output.write ⟨frame.toArray⟩
  output.flush
  logTrace log s.outbox.journal.records.length after
  if after.session.state == .closed then return after else serve input output log after

/-- Prints the causes of an error, the outermost one first. -/
def report (causes : List String) : IO UInt32 := do
  IO.eprintln ("Error: " ++ "\n\nCaused by:\n    ".intercalate causes)
  return 1

/-- Serves a session with some settings. -/
def run (s : Settings) : IO UInt32 := do
  match s.listen with
  | .stdio => do
    let pace : Nat → Nat := fun _ => 8191
    let start : System := {
      script := ← scriptOf s
      outbox := { journal := { traced := s.traceTraffic && s.logFile.isSome } }
      session := { decoder := { source := { feed := { rest := [], pace } } } } }
    let last ← serve (← IO.getStdin) (← IO.getStdout) s.logFile start
    match last.session.result with
    | .ok () => return 0
    | .error e => report [e.message]
  | address => report ["bind " ++ address.text, "only the standard streams can be served"]

end DebugAdapter.Main

open DebugAdapter DebugAdapter.Settings in
def main (words : List String) : IO UInt32 := do
  let mut environment : List (String × String) := []
  for parameter in Parameter.all do
    if let some name := parameter.variableName? then
      if let some value ← IO.getEnv name then
        environment := (name, value) :: environment
  let known := environment
  match Arguments.parse (fun name => known.lookup name) words with
  | .error e => do
    let isError := e != .helpWanted && e != .versionWanted
    (if isError then IO.eprintln else IO.println) (Main.usageMessage e)
    return if isError then 2 else 0
  | .ok args => do
    match ← Settings.load Main.look (← IO.getEnv "HOME") args with
    | .error e => Main.report e.causes
    | .ok s => Main.run s
