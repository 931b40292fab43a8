import DebugAdapter.Environment.Files.Usual
import DebugAdapter.Environment.Shell.Execution
import DebugAdapter.Interpreter.Run

/-! # Programs

The programs that there are to interpret others: a shell, utilities, and scripts that name the
program that runs them. They belong to the system that the adapter runs on and stand here so that
a session can be run as a whole. A run of an interpreter is defined for every `Child`, and what is
proved of it holds for all of them. -/

namespace DebugAdapter.Shell

open Evaluation (EngineError Outcome Program)
open Files (Tree)

/-- The depth that programs may reach. -/
def depth : Nat := 1000000000

/-- The directories in which programs are looked for. -/
def searchPath : String := "/usr/local/sbin:/usr/local/bin:/usr/sbin:/usr/bin:/sbin:/bin"

/-- The usual tree with all programs in it. -/
def usualTree : Tree := Tree.usual Utility.mark Utility.names

/-- The state in which programs start. -/
def initial (files : Tree) (input name : Text) : State :=
  let bindings := [("HOME", "/root"), ("PATH", searchPath)].map fun (name, value) =>
    (name.toList, value.toList)
  { files, input, name
    bindings := ("PWD".toList, '/' :: ofBytes ([0x2F].intercalate files.here)) :: bindings
    exported := ["HOME".toList, "PATH".toList, "PWD".toList] }

/-- The path of the program that a command names. -/
def path? (s : State) (command : Text) : Option Text :=
  if command.isEmpty then none else (s.locate command).toOption

/-- Why a program cannot be started. -/
def startFault? (s : State) (path : Text) (args : List Text) : Option IoError :=
  if args.any (·.contains '\x00') then some .nulInArgument
  else Utility.startFault? s Utility.scriptLimit path (path :: args)

/-- The program at a path, started with some arguments. -/
def start (s : State) (path : Text) (args : List Text) : Child :=
  (execute depth path path args s fun _ s =>
    .ended (match s.flow with
      | .killed signal => .killed signal
      | _ => .exited s.status) id s.signals).child

/-- Why there is no child for an interpreter, or the child. -/
def child (files : Tree) (input : Bytes) (interpreter : Interpreter) (program : Program) :
    Except Outcome Child :=
  let arguments := (interpreter.argumentsFor program).map ofString
  let s := initial files (ofBytes input) []
  match path? s (ofString interpreter.command) with
  | none => .error (Interpreter.notFound interpreter.command)
  | some path =>
    match startFault? s path arguments with
    | some e => .error (.failure (.spawn (Utf8.decodeLossy (toBytes path)) e))
    | none => .ok (start s path arguments)

/-- Evaluates a program with an interpreter. -/
def evaluate (files : Tree) (input : Bytes) (interpreter : Interpreter) (program : Program)
    (run : Run) : Outcome × Run :=
  match child files input interpreter program with
  | .error outcome => (outcome, run)
  | .ok child => run.start child

end DebugAdapter.Shell
