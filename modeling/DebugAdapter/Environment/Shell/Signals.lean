import DebugAdapter.Environment.Shell.Arithmetic

/-! # Signals

The signals that processes send to each other, by number. Number zero stands for the end of a
shell where a shell is told what to do about a signal. -/

namespace DebugAdapter.Shell.Signal

def limit : Nat := 65

/-- The signals that have a name: the name, and what is said about a process that one ended. -/
def table : List (Nat × String × String) := [
  (1, "HUP", "Hangup"), (2, "INT", "Interrupt"), (3, "QUIT", "Quit"),
  (4, "ILL", "Illegal instruction"), (5, "TRAP", "Trace/breakpoint trap"), (6, "ABRT", "Aborted"),
  (7, "BUS", "Bus error"), (8, "FPE", "Floating point exception"), (9, "KILL", "Killed"),
  (10, "USR1", "User defined signal 1"), (11, "SEGV", "Segmentation fault"),
  (12, "USR2", "User defined signal 2"), (13, "PIPE", "Broken pipe"), (14, "ALRM", "Alarm clock"),
  (15, "TERM", "Terminated"), (17, "CHLD", "Child exited"), (18, "CONT", "Continued"),
  (19, "STOP", "Stopped (signal)"), (20, "TSTP", "Stopped"), (21, "TTIN", "Stopped (tty input)"),
  (22, "TTOU", "Stopped (tty output)"), (23, "URG", "Urgent I/O condition"),
  (24, "XCPU", "CPU time limit exceeded"), (25, "XFSZ", "File size limit exceeded"),
  (26, "VTALRM", "Virtual timer expired"), (27, "PROF", "Profiling timer expired"),
  (28, "WINCH", "Window changed"), (29, "IO", "I/O possible"), (30, "PWR", "Power failure"),
  (31, "SYS", "Bad system call"), (34, "RTMIN", "Real-time signal 0"),
  (64, "RTMAX", "Real-time signal 30")]

/-- The name of a signal. Those without one are called by their number, or by their distance from
the nearer one of two that have names. -/
def name (n : Nat) : String :=
  match table.lookup n with
  | some (name, _) => name
  | none =>
    if 34 < n ∧ n < 50 then "RTMIN+" ++ Nat.repr (n - 34)
    else if 50 ≤ n ∧ n < 64 then "RTMAX-" ++ Nat.repr (64 - n)
    else Nat.repr n

/-- What is said about a process that a signal ended. -/
def description (n : Nat) : String :=
  match table.lookup n with
  | some (_, text) => text
  | none =>
    if n = 16 then "Stack fault"
    else if 34 < n then "Real-time signal " ++ Nat.repr (n - 34)
    else "Unknown signal " ++ Nat.repr n

/-- The signal that a number or a name stands for, in letters of any case. -/
def number? (text : Text) : Option Nat :=
  match Arithmetic.natural? text with
  | some n => if n < limit then some n else none
  | none =>
    let wanted := String.ofList (text.map Char.toUpper)
    (List.range limit).find? fun n => 0 < n && name n == wanted

/-- The signal that a shell is told what to do about. -/
def trapped? (text : Text) : Option Nat :=
  if text.map Char.toUpper = "EXIT".toList then some 0 else number? text

/-- Whether nothing happens on a signal that nobody cares about. -/
def isHarmless (n : Nat) : Bool := n == 0 || n == 17 || n == 18 || n == 23 || n == 28

/-- Whether a signal ends a process whatever it does about signals. -/
def isFinal (n : Nat) : Bool := n == 9

/-- Whether nothing is said about a process that a signal ended. -/
def isSilent (n : Nat) : Bool := n == 2 || n == 13

end DebugAdapter.Shell.Signal
