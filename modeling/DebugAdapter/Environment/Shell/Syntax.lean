import DebugAdapter.Text.Utf8

/-! # Shell programs

The commands of a small shell. Its texts are made of bytes: every character of a `Text` stands
for one byte. -/

namespace DebugAdapter.Shell

/-- Bytes, written as the characters with their numbers. -/
abbrev Text := List Char

def ofBytes (bytes : Bytes) : Text := bytes.map fun b => Char.ofNat b.toNat

def toBytes (text : Text) : Bytes := text.map fun c => c.toNat.toUInt8

def ofString (s : String) : Text := ofBytes (Utf8.encode s)

/-- A number in decimal notation. -/
def decimal (n : Int) : Text :=
  if n < 0 then '-' :: Nat.toDigits 10 n.natAbs else Nat.toDigits 10 n.natAbs

/-- Words with blanks between them. -/
def spaced (words : List Text) : Text := [' '].intercalate words

/-- Whether a text stands no later than another one where texts stand in order: their first
different characters decide. -/
def notAfter : Text → Text → Bool
  | [], _ => true
  | _ :: _, [] => false
  | c :: text, c' :: text' =>
    if c.toNat = c'.toNat then notAfter text text' else decide (c.toNat < c'.toNat)

/-- The sum of some numbers. -/
def total (numbers : List Nat) : Nat := numbers.foldr (fun n rest => n + rest) 0

/-- What the word in `${name-word}` is for. -/
inductive Fallback where
  | nothing
  | use
  | assign
  /-- Uses the word if there is a value. -/
  | alternative
  /-- The word says what is wrong if there is no value. -/
  | require
  /-- The word is a pattern that is taken away from an end of the value. -/
  | trim (atEnd longest : Bool)
  deriving DecidableEq, Repr

/-- How a file is opened. -/
inductive Opening where
  | reading
  | writing
  /-- Writes even to a file that may not be overwritten. -/
  | overwriting
  | appending
  /-- Opens a file for both, without changing it. -/
  | updating
  deriving DecidableEq, Repr

mutual

/-- A part of a word. Quoted parts are not split. -/
inductive Part where
  | text (quoted : Bool) (text : Text)
  /-- A variable; whether an empty one counts as none, and what happens then. -/
  | value (quoted : Bool) (name : Text) (orEmpty : Bool) (fallback : Fallback)
      (word : List Part)
  | length (quoted : Bool) (name : Text)
  | arithmetic (quoted : Bool) (expression : List Part)
  | output (quoted : Bool) (command : Command)
  /-- The directory that a tilde stands for, with the name of the user whose it is. -/
  | home (user : Text)
  /-- A replacement that makes no sense. -/
  | nonsense

/-- Where a stream of a command leads. -/
inductive Redirection where
  | file (stream : Nat) (opening : Opening) (name : List Part)
  /-- The stream becomes another one, or is closed. -/
  | copy (stream : Nat) (source : Option Nat)
  /-- The stream becomes the one whose number a word gives. -/
  | copyOf (stream : Nat) (source : List Part)
  | document (stream : Nat) (text : List Part)

/-- A command. Some know the line on which they start. -/
inductive Command where
  | simple (line : Nat) (assignments : List (Text × List Part)) (words : List (List Part))
      (redirections : List Redirection)
  | redirected (line : Nat) (command : Command) (redirections : List Redirection)
  | sequence (first second : Command)
  | background (line : Nat) (command : Command)
  | andThen (first second : Command)
  | orElse (first second : Command)
  | negation (command : Command)
  | pipe (first second : Command)
  | subshell (line : Nat) (command : Command)
  | choose (test yes : Command) (no : Option Command)
  | loop (while_ : Bool) (test body : Command)
  | each (line : Nat) (name : Text) (words : Option (List (List Part))) (body : Command)
  | select (line : Nat) (word : List Part) (clauses : List (List (List Part) × Option Command))
  | define (name : Text) (body : Command)

end

abbrev Word := List Part

end DebugAdapter.Shell
