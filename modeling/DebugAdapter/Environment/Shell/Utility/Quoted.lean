import DebugAdapter.Environment.Shell.Syntax

/-! # Quoted texts in messages

Arguments stand in quotes in which what cannot be printed is escaped. The names of files are
quoted so that a shell reads them back. -/

namespace DebugAdapter.Shell.Utility

/-- Whether a character can be printed. -/
def isPrintable (c : Char) : Bool := decide (32 ≤ c.toNat ∧ c.toNat < 127)

/-- A character that cannot be printed. -/
def escaped (c : Char) : Text :=
  match ("\x07\x08\t\n\x0b\x0c\r".toList.zip "abtnvfr".toList).lookup c with
  | some letter => ['\\', letter]
  | none => '\\' :: [64, 8, 1].map fun place => Char.ofNat (48 + c.toNat / place % 8)

/-- A text in quotes. -/
def quoted (text : Text) : Text :=
  '\'' :: text.flatMap (fun c =>
    if c = '\'' ∨ c = '\\' then ['\\', c] else if isPrintable c then [c] else escaped c) ++ ['\'']

/-- Whether a shell takes a character of a word for itself wherever it stands. -/
def isSafe (c : Char) : Bool := c.isAlphanum || "%+,-./:]_".contains c

/-- Whether a shell takes a word for itself. -/
def isSafeWord (text : Text) : Bool :=
  match text with
  | [] | ['\x7b'] | ['\x7d'] => false
  | c :: rest => c != '#' && c != '~' &&
    (c :: rest).all fun c => c != ':' && (isSafe c || "@\x7b\x7d#~".contains c)

/-- The rest of a word for a shell, inside quotes with or without escapes. -/
def shellTail : (escapes : Bool) → Text → Text
  | _, [] => ['\'']
  | escapes, c :: rest =>
    if c = '\'' then "'\\''".toList ++ shellTail false rest
    else if isPrintable c then (if escapes then "''".toList else []) ++ c :: shellTail false rest
    else (if escapes then [] else "'$'".toList) ++ escaped c ++ shellTail true rest

/-- The name of a file as a word in quotes for a shell. -/
def quotedName (text : Text) : Text :=
  if text.contains '\'' && text.all (fun c => c == '\'' || c == ' ' || isSafe c) then
    '"' :: text ++ ['"']
  else '\'' :: shellTail false text

/-- The name of a file as a word for a shell. -/
def shownName (text : Text) : Text := if isSafeWord text then text else quotedName text

end DebugAdapter.Shell.Utility
