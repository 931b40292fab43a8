import DebugAdapter.Text.Blank
import DebugAdapter.Text.Decimal

/-! # Headers of frames

A frame is a header block, an empty line and a payload. The header block has one line for each
header, and the one header that matters gives the length of the payload. -/

namespace DebugAdapter.Framing

/-- The name of the header that gives the length of the payload. -/
def lengthName : List Char := "Content-Length".toList

/-- The end of a line. -/
def lineEnd : Bytes := [0x0D, 0x0A]

/-! ## Writing -/

/-- The header block for a payload of a given length, with the empty line. -/
def header (length : Nat) : Bytes :=
  lengthName.map Char.toUInt8 ++ [0x3A, 0x20] ++ Decimal.encode length ++ lineEnd ++ lineEnd

/-- A payload with its header. -/
def frame (payload : Bytes) : Bytes := header payload.length ++ payload

/-! ## Reading -/

/-- The lines of a header block. Only a carriage return followed by a line feed ends a line. -/
def lines : List Char → List (List Char)
  | [] => [[]]
  | '\r' :: '\n' :: rest => [] :: lines rest
  | c :: rest =>
    match lines rest with
    | [] => [[c]]
    | line :: more => (c :: line) :: more

/-- The name and the value of a line with a colon. -/
def field? (line : List Char) : Option (List Char × List Char) :=
  match line.dropWhile (· ≠ ':') with
  | [] => none
  | _ :: value => some (line.takeWhile (· ≠ ':'), value)

/-- Whether a header name is the one that matters, in any case and with blanks around it. -/
def isLengthName (name : List Char) : Bool :=
  (Text.trim name).map Char.toLower == lengthName.map Char.toLower

/-- The values of all length headers. -/
def lengthValues (text : List Char) : List (List Char) :=
  (lines text).filterMap fun line =>
    match field? line with
    | some (name, value) => if isLengthName name then some (Text.trim value) else none
    | none => none

/-- The greatest length a header may give. -/
def lengthLimit : Nat := 2147483647

/-- The length that a value gives: digits only, and not beyond the limit. -/
def length? (value : List Char) : Option Nat :=
  if value ≠ [] ∧ value.all Char.isDigit then
    let n := Nat.ofDigitChars 10 value 0
    if n ≤ lengthLimit then some n else none
  else none

/-- The length that a header block gives. Every length header has to be valid, and the last one
counts. -/
def contentLength? (block : Bytes) : Option Nat := do
  let text ← Utf8.decode? block
  let lengths ← (lengthValues text.toList).mapM length?
  lengths.getLast?

end DebugAdapter.Framing
