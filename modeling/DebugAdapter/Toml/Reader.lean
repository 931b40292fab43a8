import DebugAdapter.Toml.Quoted

/-! # Reading TOML

Keys, values and whole documents. A reader takes characters and gives what it read and what
follows it, or nothing if the characters are not well formed. -/

namespace DebugAdapter.Toml

abbrev Reader (α : Type) := List Char → Option (α × List Char)

namespace Reader

open Quoted

/-- How many parts a key may not have, and how many arrays and inline tables may not lie in one
another. -/
def limit : Nat := 80

/-! ## Blanks -/

def skipBlanks (text : List Char) : List Char := text.dropWhile isBlank

/-- What follows the rest of a line, in which there may only be a comment. -/
def afterLine? (text : List Char) : Option (List Char) :=
  let rest := match skipBlanks text with
    | '#' :: comment => comment.dropWhile isPlain
    | rest => rest
  if rest.isEmpty then some [] else afterNewline? rest

/-- What follows any blanks, ends of lines and comments. -/
def skipLines (inComment : Bool) : List Char → Option (List Char)
  | [] => if inComment then none else some []
  | '\n' :: rest => skipLines false rest
  | '\r' :: '\n' :: rest => skipLines false rest
  | c :: rest =>
    if inComment then if isPlain c then skipLines true rest else none
    else if isBlank c then skipLines false rest
    else if c = '#' then skipLines true rest
    else some (c :: rest)

/-! ## Keys -/

/-- Whether a character may be part of a key without quotes. -/
def isBare (c : Char) : Bool := c.isAlphanum || c == '_' || c == '-'

/-- One part of a key. -/
def keyPart : Reader (List Char)
  | '"' :: rest => escaped rest
  | '\'' :: rest => verbatim rest
  | text =>
    let (bare, rest) := text.span isBare
    if bare.isEmpty then none else some (bare, rest)

/-- The parts of a key, divided by dots. There are at most `bound` of them. -/
def keyParts : Nat → Reader (List String)
  | 0, _ => none
  | bound + 1, text => do
    let (part, rest) ← keyPart (skipBlanks text)
    match skipBlanks rest with
    | '.' :: rest =>
      let (parts, rest) ← keyParts bound rest
      some (String.ofList part :: parts, rest)
    | rest => some ([String.ofList part], rest)

/-- A key: the parts before its last one, and the last one. -/
def key : Reader (List String × String) := fun text => do
  let (parts, rest) ← keyParts (limit - 1) text
  some ((parts.dropLast, ← parts.getLast?), rest)

/-! ## Values -/

/-- The values up to the end of an array, with commas between them and perhaps after the last
one. There are fewer than `bound` of them. -/
def items (value : Reader Value) : Nat → Reader (List Value)
  | 0, _ => none
  | bound + 1, text => do
    match ← skipLines false text with
    | ']' :: rest => some ([], rest)
    | text =>
      let (item, rest) ← value text
      match ← skipLines false rest with
      | ',' :: rest =>
        let (others, rest) ← items value bound rest
        some (item :: others, rest)
      | ']' :: rest => some ([item], rest)
      | _ => none

/-- A key with its value, divided by an equals sign. -/
def pair (value : Reader Value) : Reader ((List String × String) × Value) := fun text => do
  match ← key text with
  | (key, '=' :: rest) =>
    let (v, rest) ← value (skipBlanks rest)
    some ((key, v), rest)
  | _ => none

/-- The pairs up to the end of an inline table, added to those before. There are at most
`bound` of them. -/
def pairs (value : Reader Value) (entries : Entries) : Nat → Reader Entries
  | 0, _ => none
  | bound + 1, text => do
    let (((path, key), v), rest) ← pair value text
    let entries ← entries.define path key v
    match skipBlanks rest with
    | ',' :: rest => pairs value entries bound rest
    | '}' :: rest => some (entries, rest)
    | _ => none

/-- A value, given what values inside it may be. -/
def valueOver (nested : Option (Reader Value)) : Reader Value
  | '[' :: rest => do
    let (vs, rest) ← items (← nested) (rest.length + 1) rest
    some (.array vs, rest)
  | '\x7b' :: rest => do
    let inner ← nested
    match skipBlanks rest with
    | '\x7d' :: rest => some (.table .inline [], rest)
    | rest =>
      let (entries, rest) ← pairs inner [] (rest.length + 1) rest
      some (.table .inline entries, rest)
  | '"' :: rest => text ('"' :: rest)
  | '\'' :: rest => text ('\'' :: rest)
  | rest => Literal.read rest
where
  text (quoted : List Char) : Option (Value × List Char) := do
    let (cs, rest) ← Quoted.read quoted
    some (.text (String.ofList cs), rest)

/-- A value in which so many arrays and inline tables may lie in one another. -/
def value : Nat → Reader Value
  | 0 => valueOver none
  | depth + 1 => valueOver (some (value depth))

/-! ## Documents -/

/-- What a line says. -/
inductive Line where
  | blank
  | pair (path : List String) (key : String) (value : Value)
  | header (path : List String) (key : String)
  /-- A header in double brackets. -/
  | item (path : List String) (key : String)

/-- A header up to its closing bracket. -/
def header (text : List Char) : Option ((List String × String) × List Char) := do
  match ← key text with
  | (key, ']' :: rest) => some (key, rest)
  | _ => none

/-- A line without what may follow it. -/
def line : Reader Line
  | '#' :: rest => some (.blank, '#' :: rest)
  | '\n' :: rest => some (.blank, '\n' :: rest)
  | '\r' :: rest => some (.blank, '\r' :: rest)
  | '[' :: '[' :: rest => do
    match ← header rest with
    | ((path, key), ']' :: rest) => some (.item path key, rest)
    | _ => none
  | '[' :: rest => do
    let ((path, key), rest) ← header rest
    some (.header path key, rest)
  | text => do
    let (((path, key), v), rest) ← pair (value (limit - 1)) text
    some (.pair path key v, rest)

/-- The entries of a document after a line, and the header that is open then. -/
def apply (entries : Entries) (opened : List String) : Line → Option (Entries × List String)
  | .blank => some (entries, opened)
  | .pair path key v => do some (← entries.defineUnder opened path key v, opened)
  | .header path key => do some (← entries.declare path key, path ++ [key])
  | .item path key => do some (← entries.append path key, path ++ [key])

/-- The lines of a document, of which there are fewer than `bound`. -/
def document (entries : Entries) (opened : List String) : Nat → List Char → Option Entries
  | 0, _ => none
  | bound + 1, text =>
    match skipBlanks text with
    | [] => some entries
    | text => do
      let (line, rest) ← line text
      let (entries, opened) ← apply entries opened line
      document entries opened bound (← afterLine? rest)

end Reader

/-- The table that a document describes, nothing if the document is not well formed. A mark of
the byte order at its start is ignored. -/
def parse (text : String) : Option Value :=
  let chars := match text.toList with
    | '\uFEFF' :: rest => rest
    | chars => chars
  (Reader.document [] [] (chars.length + 1) chars).map (.table .declared)

end DebugAdapter.Toml
