/-! # Errors of streams, files and programs

What can go wrong outside the program. Operations that were interrupted are tried again. -/

namespace DebugAdapter

/-- Why the system refuses to open a file or to start a program. -/
inductive SystemError where
  | noEntry
  | argumentsTooLong
  | notProgram
  | accessDenied
  | notDirectory
  | isDirectory
  | nameTooLong
  | tooManyLinks
  deriving DecidableEq, Repr

namespace SystemError

def number : SystemError → Nat
  | .noEntry => 2
  | .argumentsTooLong => 7
  | .notProgram => 8
  | .accessDenied => 13
  | .notDirectory => 20
  | .isDirectory => 21
  | .nameTooLong => 36
  | .tooManyLinks => 40

def text : SystemError → String
  | .noEntry => "No such file or directory"
  | .argumentsTooLong => "Argument list too long"
  | .notProgram => "Exec format error"
  | .accessDenied => "Permission denied"
  | .notDirectory => "Not a directory"
  | .isDirectory => "Is a directory"
  | .nameTooLong => "File name too long"
  | .tooManyLinks => "Too many levels of symbolic links"

def message (e : SystemError) : String := e.text ++ " (os error " ++ Nat.repr e.number ++ ")"

end SystemError

/-- Why an operation on a stream, a file or a program failed. -/
inductive IoError where
  | notFound
  | permissionDenied
  | connectionReset
  | connectionAborted
  /-- The stream was closed before. -/
  | notConnected
  | brokenPipe
  | invalidData
  | timedOut
  | interrupted
  | unexpectedEof
  /-- A write took no byte. -/
  | writeZero
  | system (e : SystemError)
  /-- The name of a file has a character that ends it. -/
  | nulInName
  /-- An argument has a character that ends it. -/
  | nulInArgument
  /-- The bytes are no text. -/
  | notText
  deriving DecidableEq, Repr

def IoError.message : IoError → String
  | .notFound => "entity not found"
  | .permissionDenied => "permission denied"
  | .connectionReset => "connection reset"
  | .connectionAborted => "connection aborted"
  | .notConnected => "stream already closed"
  | .brokenPipe => "broken pipe"
  | .invalidData => "invalid data"
  | .timedOut => "timed out"
  | .interrupted => "operation interrupted"
  | .unexpectedEof => "unexpected end of file"
  | .writeZero => "failed to write whole buffer"
  | .system e => e.message
  | .nulInName => "file name contained an unexpected NUL byte"
  | .nulInArgument => "nul byte found in provided data"
  | .notText => "stream did not contain valid UTF-8"

/-- A step that is taken again after an interruption, so many times at most. -/
def persist {σ α : Type} (step : σ → Except IoError α × σ) :
    (times : Nat) → σ → Except IoError α × σ
  | 0, s => step s
  | times + 1, s =>
    match step s with
    | (.error .interrupted, s) => persist step times s
    | result => result

end DebugAdapter
