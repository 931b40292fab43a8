import DebugAdapter.Environment.Shell.Lookup
import DebugAdapter.Environment.Shell.Utility.Edit
import DebugAdapter.Environment.Shell.Utility.Files
import DebugAdapter.Environment.Shell.Utility.Lines
import DebugAdapter.Environment.Shell.Utility.Search

/-! # The programs that need no others

Utilities by their names. Some of them are built-in commands of the shell as well, and say what
they have to say in words of their own. -/

namespace DebugAdapter.Shell.Utility

open Effect

def echo : Utility := fun name args => do
  finish 0
  put name (Format.echoProgram args)

/-- What is said about a value that is no number. -/
def printfWarning (warning : Text) : Text :=
  let numeric := ": expected numeric value".toList
  let converted := ": not completely converted".toList
  if numeric.isSuffixOf warning then
    quoted (warning.take (warning.length - numeric.length)) ++ ": expected a numeric value".toList
  else if converted.isSuffixOf warning then
    quoted (warning.take (warning.length - converted.length)) ++
      ": value not completely converted".toList
  else warning

def printf : Utility := fun name args => do
  let args := if args.head? = some ['-', '-'] then args.drop 1 else args
  match args with
  | [] => misused name 1 "missing operand".toList
  | format :: args => do
    let printed := Format.printf format args
    finish (if printed.warnings.isEmpty then 0 else 1)
    for warning in printed.warnings do say name (printfWarning warning)
    put name printed.output
    match printed.failure with
    | some failure => if ← isOn then stop name 1 failure
    | none => pure ()

/-- A condition; in brackets if the name says so. -/
def test : Utility := fun name args => do
  let isBracket := lastName name = ['[']
  if isBracket && args.getLast? != some [']'] then do
    say name "missing ']'".toList
    finish 2
  else match Condition.test (← get).files (if isBracket then args.dropLast else args) with
    | .ok holds => finish (if holds then 0 else 1)
    | .error message => do
      say name message
      finish 2

/-- Sends signals to processes. -/
def kill : Utility := fun _ args => do
  Builtin.kill args
  modify fun s => if s.flow == .refused then { s with flow := .on, status := 1 } else s

def pwd : Utility := fun name _ => do
  finish 0
  put name ('/' :: ofBytes ([0x2F].intercalate (← get).files.here) ++ ['\n'])

/-- The variables that other programs get. -/
def environment (s : State) : List (Text × Text) :=
  (s.bindings.filter fun (name, _) => s.exported.contains name).reverse

def printenv : Utility := fun name args => do
  finish 0
  let given := environment (← get)
  if args.isEmpty then put name (given.flatMap fun (name, value) => ended (name ++ '=' :: value))
  else onEach (fun arg => do
    match given.lookup arg with
    | some value => put name (ended value)
    | none => finish 1) args

/-- Says where programs are. -/
def which : Utility := fun name args => do
  finish 0
  onEach (fun arg => do
    match (← get).locate arg with
    | .ok path => put name (ended path)
    | .error _ => finish 1) (args.filter fun arg => arg.head? != some '-')

def fixed (text : String) : Utility := fun name _ => do
  finish 0
  put name (ended text.toList)

def identity : Utility := fun name args => do
  finish 0
  let wanted := args.flatten
  put name (ended (if wanted.contains 'n' then "root"
    else if wanted.contains 'u' || wanted.contains 'g' || wanted.contains 'G' then "0"
    else "uid=0(root) gid=0(root) groups=0(root)").toList)

/-- The utilities that need no other programs. -/
def byName? (bound : Nat) (name : String) : Option Utility :=
  match name with
  | "[" | "test" => some test
  | "arch" => some (fixed "x86_64")
  | "base64" => some base64
  | "basename" => some basename
  | "cat" => some cat
  | "chmod" => some chmod
  | "cp" => some cp
  | "cut" => some cut
  | "dd" => some dd
  | "dirname" => some dirname
  | "echo" => some echo
  | "egrep" => some (grep true false)
  | "expr" => some expr
  | "false" => some fun _ _ => finish 1
  | "fgrep" => some (grep false true)
  | "fold" => some fold
  | "grep" => some (grep false false)
  | "head" => some head
  | "id" => some identity
  | "kill" => some kill
  | "ln" => some ln
  | "ls" => some ls
  | "mkdir" => some mkdir
  | "mv" => some mv
  | "nl" => some nl
  | "od" => some od
  | "paste" => some paste
  | "printenv" => some printenv
  | "printf" => some printf
  | "pwd" => some pwd
  | "readlink" => some readlink
  | "realpath" => some realpath
  | "rev" => some rev
  | "rm" => some rm
  | "rmdir" => some rmdir
  | "sed" => some sed
  | "seq" => some seq
  | "sleep" => some (sleep bound)
  | "sort" => some sort
  | "sync" | "true" => some fun _ _ => finish 0
  | "tac" => some tac
  | "tail" => some tail
  | "tee" => some tee
  | "touch" => some touch
  | "tr" => some tr
  | "tty" => some fun name _ => do
    put name (ended "not a tty".toList)
    if ← isOn then finish 1
  | "uname" => some (fixed "Linux")
  | "uniq" => some uniq
  | "wc" => some wc
  | "which" => some which
  | "whoami" => some (fixed "root")
  | "yes" => some (yes bound)
  | _ => none

/-- The names of all of them, and of those that run other programs. -/
def names : List String :=
  ["[", "arch", "base64", "basename", "bash", "cat", "chmod", "cp", "cut", "dash", "dd", "dirname",
    "echo", "egrep", "env", "expr", "false", "fgrep", "fold", "grep", "head", "id", "kill", "ln",
    "ls", "mkdir", "mv", "nice", "nl", "nohup", "od", "paste", "printenv", "printf", "pwd",
    "readlink", "realpath", "rev", "rm", "rmdir", "sed", "seq", "setsid", "sleep", "sort", "stdbuf",
    "sync", "tac", "tail", "tee", "test", "timeout", "touch", "tr", "true", "tty", "uname", "uniq",
    "wc", "which", "whoami", "xargs", "yes"]

end DebugAdapter.Shell.Utility
