import DebugAdapter.Environment.Shell.State

/-! # Fields and patterns

What words become when their parts are replaced: characters that still know whether they were
quoted. They are split into fields, joined into one text, or used as a pattern. -/

namespace DebugAdapter.Shell

open Files (Name Tree)

inductive Glyph where
  | plain (c : Char)
  | quoted (c : Char)
  /-- Comes from a replacement without quotes. -/
  | replaced (c : Char)
  /-- Quotes with nothing in them, which still make a field. -/
  | anchor
  /-- The end of a field. -/
  | border
  /-- The end of a field that is left out if it is empty. -/
  | gap
  deriving DecidableEq, Repr

namespace Glyph

def char? : Glyph → Option Char
  | .plain c | .quoted c | .replaced c => some c
  | .anchor => none
  | .border | .gap => some ' '

/-- The glyphs of a replacement. -/
def ofValue (isQuoted : Bool) (value : Text) : List Glyph :=
  if isQuoted then .anchor :: value.map .quoted else value.map .replaced

/-- The glyphs as one text. -/
def text (glyphs : List Glyph) : Text := glyphs.filterMap char?

/-! ## Fields -/

def isSpace (c : Char) : Bool := c == ' ' || c == '\t' || c == '\n'

/-- The fields of glyphs, given the one that was begun, its last glyph first, and whether blanks
ended one just before. Replaced characters among the separators end fields. -/
def fieldsFrom (separators : Text) : Option (List Glyph) → Bool → List Glyph → List (List Glyph)
  | begun, _, [] => begun.toList.map List.reverse
  | begun, _, .anchor :: rest => fieldsFrom separators (some (begun.getD [])) false rest
  | begun, _, .border :: rest =>
    (begun.getD []).reverse :: fieldsFrom separators (some []) false rest
  | begun, _, .gap :: rest =>
    begun.toList.map List.reverse ++ fieldsFrom separators none false rest
  | begun, blank, .replaced c :: rest =>
    if !separators.contains c then
      fieldsFrom separators (some (.replaced c :: begun.getD [])) false rest
    else match begun with
      | some field => field.reverse :: fieldsFrom separators none (isSpace c) rest
      | none =>
        if isSpace c then fieldsFrom separators none blank rest
        else if blank then fieldsFrom separators none false rest
        else [] :: fieldsFrom separators none false rest
  | begun, _, g :: rest => fieldsFrom separators (some (g :: begun.getD [])) false rest

def fields (separators : Text) (glyphs : List Glyph) : List (List Glyph) :=
  fieldsFrom separators none false glyphs

/-! ## Patterns -/

inductive Pattern where
  | char (c : Char)
  | one
  | many
  | set (among : Bool) (ranges : List (Char × Char))
  deriving DecidableEq, Repr

def special? : Glyph → Option Char
  | .plain c | .replaced c => some c
  | _ => none

/-- The ranges of characters that have a name. -/
def classes : List (String × List (Char × Char)) :=
  [("alpha", [('a', 'z'), ('A', 'Z')]), ("digit", [('0', '9')]), ("lower", [('a', 'z')]),
    ("upper", [('A', 'Z')]), ("alnum", [('a', 'z'), ('A', 'Z'), ('0', '9')]),
    ("space", [(' ', ' '), ('\t', '\r')]), ("blank", [(' ', ' '), ('\t', '\t')]),
    ("punct", [('!', '/'), (':', '@'), ('[', '\x60'), ('\x7b', '~')]),
    ("xdigit", [('0', '9'), ('a', 'f'), ('A', 'F')]), ("cntrl", [('\x00', '\x1f'), ('\x7f', '\x7f')]),
    ("print", [(' ', '~')]), ("graph", [('!', '~')])]

/-- The ranges of a class such as `[:alpha:]` and what follows it. -/
def class? (text : Text) : Option (List (Char × Char) × Text) :=
  match text with
  | '[' :: ':' :: rest =>
    let (name, after) := rest.span Char.isAlpha
    match classes.lookup (String.ofList name), after with
    | some ranges, ':' :: ']' :: after => some (ranges, after)
    | _, _ => none
  | _ => none

/-- The ranges of characters in brackets, up to the bracket that closes. The first argument says
whether a bracket may stand for itself, the second one bounds the number of ranges. -/
def ranges (atStart : Bool) : Nat → Text → Option (List (Char × Char) × Text)
  | 0, _ | _, [] => none
  | bound + 1, text =>
    let more (some_ : List (Char × Char)) (rest : Text) := do
      let (others, rest) ← ranges false bound rest
      some (some_ ++ others, rest)
    match class? text, text with
    | some (some_, rest), _ => more some_ rest
    | none, c :: rest =>
      if c = ']' ∧ !atStart then some ([], rest)
      else match rest with
        | '-' :: d :: after => if d = ']' then more [(c, c)] rest else more [(c, d)] after
        | rest => more [(c, c)] rest
    | none, [] => none

/-- The pattern in brackets at the start of a text after the opening bracket. -/
def brackets? (text : Text) : Option (Pattern × Text) :=
  let negated := text.head? = some '!' ∨ text.head? = some '^'
  let inside := if negated then text.drop 1 else text
  (ranges true (inside.length + 1) inside).map fun (ranges, rest) => (.set (!negated) ranges, rest)

/-- The pattern of glyphs. -/
def pattern : Nat → List Glyph → List Pattern
  | 0, _ | _, [] => []
  | bound + 1, g :: rest =>
    match special? g with
    | some '*' => .many :: pattern bound rest
    | some '?' => .one :: pattern bound rest
    | some '[' =>
      match brackets? (text rest) with
      | some (p, after) => p :: pattern bound (rest.drop (rest.length - after.length))
      | none => .char '[' :: pattern bound rest
    | _ => ((char? g).map Pattern.char).toList ++ pattern bound rest

def Pattern.accepts (c : Char) : Pattern → Bool
  | .char d => c == d
  | .one => true
  | .many => true
  | .set among ranges => ranges.any (fun (a, b) => a ≤ c && c ≤ b) == among

/-- Whether a pattern is that of a whole text. -/
def isMatch : List Pattern → Text → Bool
  | [], text => text.isEmpty
  | .many :: ps, [] => isMatch ps []
  | .many :: ps, c :: cs => isMatch ps (c :: cs) || isMatch (.many :: ps) cs
  | _ :: _, [] => false
  | p :: ps, c :: cs => p.accepts c && isMatch ps cs
termination_by ps text => ps.length + text.length

/-- The glyphs of a pattern without those that are no characters. -/
def patternOf (glyphs : List Glyph) : List Pattern :=
  let glyphs := glyphs.filter fun g => (char? g).isSome
  pattern (glyphs.length + 1) glyphs

/-- A text without what fits a pattern at one of its ends. -/
def trim (ps : List Pattern) (atEnd longest : Bool) (text : Text) : Text :=
  let lengths := List.range (text.length + 1)
  let fits (n : Nat) := isMatch ps (if atEnd then text.drop (text.length - n) else text.take n)
  match (if longest then lengths.reverse else lengths).find? fits with
  | some n => if atEnd then text.take (text.length - n) else text.drop n
  | none => text

/-! ## Names of files -/

/-- Whether some glyphs are a pattern and not only a text. -/
def isPattern (glyphs : List Glyph) : Bool := glyphs.any fun g => "*?[".contains ((special? g).getD ' ')

/-- The glyphs between slashes. -/
def names (glyphs : List Glyph) : List (List Glyph) :=
  (glyphs.foldr (fun g (name, names) =>
    if char? g = some '/' then ([], name :: names) else (g :: name, names)) ([], [])) |> fun (n, ns) => n :: ns

/-- The paths in a tree that fit some names after a path. -/
def paths (tree : Tree) (before : Text) : List (List Glyph) → List Text
  | [] => [before]
  | name :: rest =>
    let slash (path : Text) : Text := if rest.isEmpty then path else path ++ ['/']
    if isPattern name then
      let here := match tree.locate (toBytes (if before.isEmpty then ['.'] else before)) with
        | .ok place => tree.below place
        | .error _ => []
      let hidden := (text name).head? = some '.'
      (here.map ofBytes).flatMap fun n =>
        if isMatch (patternOf name) n && (hidden || n.head? != some '.') then
          paths tree (slash (before ++ n)) rest
        else []
    else
      let path := before ++ text name
      if rest.isEmpty then
        match tree.find (toBytes path) with
        | .ok _ => [path]
        | .error _ => []
      else paths tree (slash path) rest

/-- The texts of a field: the paths that fit it, or itself if there are none. -/
def expandPaths (tree : Tree) (glyphs : List Glyph) : List Text :=
  if isPattern glyphs then
    match paths tree [] (names glyphs) with
    | [] => [text glyphs]
    | found => found
  else [text glyphs]

end Glyph

/-! ## Parameters -/

/-- The letters of all options, in the order in which they are shown. -/
def optionLetters : List (Char × String) :=
  [('u', "nounset"), ('b', "notify"), ('a', "allexport"), ('C', "noclobber"), ('E', "emacs"),
    ('V', "vi"), ('v', "verbose"), ('x', "xtrace"), ('s', "stdin"), ('n', "noexec"),
    ('m', "monitor"), ('i', "interactive"), ('I', "ignoreeof"), ('f', "noglob"), ('e', "errexit")]

/-- The value of a variable or a parameter. -/
def State.value? (s : State) (name : Text) : Option Text :=
  match name with
  | ['?'] => some (decimal s.status.toNat)
  | ['$'] => some s.number
  | ['!'] => s.lastJob.map fun n => decimal n
  | ['#'] => some (decimal s.parameters.length)
  | ['-'] => some ((optionLetters.filter fun o => s.has o.1).map (·.1))
  | ['0'] => some s.name
  | ['@'] | ['*'] => if s.parameters.isEmpty then none else some (spaced s.parameters)
  | name =>
    if name.all Char.isDigit then
      s.parameters[(name.foldl (fun n d => n * 10 + (d.toNat - 48)) 0) - 1]?
    else s.bindings.lookup name

/-- The characters that separate fields. -/
def State.separators (s : State) : Text := (s.bindings.lookup "IFS".toList).getD [' ', '\t', '\n']

end DebugAdapter.Shell
