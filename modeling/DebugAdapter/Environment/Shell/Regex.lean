import DebugAdapter.Environment.Shell.Arithmetic
import DebugAdapter.Environment.Shell.Expansion

/-! # Regular expressions

Expressions in two notations: in the basic one most signs stand for themselves unless a backslash
precedes them, in the extended one it is the other way round. A match is the one that starts
first, with repetitions as long as possible and the longer one of two alternatives. -/

namespace DebugAdapter.Shell

inductive Regex where
  | empty
  | char (c : Char)
  | any
  | set (among : Bool) (ranges : List (Char × Char))
  | start
  | stop
  /-- The edge of a word; whether a word has to begin, to end, or either of them. -/
  | edge (begins ends : Bool)
  | group (number : Nat) (r : Regex)
  /-- The same text as that of a group. -/
  | back (number : Nat)
  | cat (a b : Regex)
  | or (a b : Regex)
  | times (r : Regex) (least : Nat) (most : Option Nat)
  deriving DecidableEq, Repr

namespace Regex

/-! ## Reading -/

/-- What is wrong with an expression. -/
inductive Fault where
  | openBracket
  | openGroup
  | closedGroup
  | openBrace
  | badBrace
  | noGroup
  | backslash
  | nothingToRepeat
  deriving DecidableEq, Repr

def Fault.message : Fault → String
  | .openBracket => "Unmatched [, [^, [:, [., or [="
  | .openGroup => "Unmatched ( or \\("
  | .closedGroup => "Unmatched ) or \\)"
  | .openBrace => "Unmatched \\\x7b"
  | .badBrace => "Invalid content of \\\x7b\\\x7d"
  | .noGroup => "Invalid back reference"
  | .backslash => "Trailing backslash"
  | .nothingToRepeat => "Invalid preceding regular expression"

/-- What an expression is made of. -/
inductive Sign where
  | plain (r : Regex)
  | open_
  | close
  | bar
  | star
  | plus
  | question
  | brace
  | caret
  | dollar
  deriving DecidableEq, Repr

def wordRanges : List (Char × Char) := [('a', 'z'), ('A', 'Z'), ('0', '9'), ('_', '_')]

def spaceRanges : List (Char × Char) := [(' ', ' '), ('\t', '\r')]

/-- What a character after a backslash stands for in both notations. -/
def escaped (c : Char) : Regex :=
  match c with
  | 'n' => .char '\n'
  | 't' => .char '\t'
  | 'w' => .set true wordRanges
  | 'W' => .set false wordRanges
  | 's' => .set true spaceRanges
  | 'S' => .set false spaceRanges
  | 'b' => .edge true true
  | '<' => .edge true false
  | '>' => .edge false true
  | c => if c.isDigit && c != '0' then .back (c.toNat - 48) else .char c

/-- The first sign of an expression. -/
def sign? (extended : Bool) (text : Text) : Except Fault (Option (Sign × Text)) :=
  let special (c : Char) : Option Sign := match c with
    | '(' => some .open_
    | ')' => some .close
    | '|' => some .bar
    | '+' => some .plus
    | '?' => some .question
    | '\x7b' => some .brace
    | _ => none
  match text with
  | [] => .ok none
  | ['\\'] => .error .backslash
  | '\\' :: c :: rest =>
    match if extended then none else special c with
    | some sign => .ok (some (sign, rest))
    | none => .ok (some (.plain (escaped c), rest))
  | '[' :: rest =>
    match Glyph.brackets? rest with
    | some (.set among ranges, rest) => .ok (some (.plain (.set among ranges), rest))
    | _ => .error .openBracket
  | c :: rest =>
    let sign : Sign := match c with
      | '.' => .plain .any
      | '*' => .star
      | '^' => .caret
      | '$' => .dollar
      | c => ((if extended then special c else none)).getD (.plain (.char c))
    .ok (some (sign, rest))

/-- The numbers in braces, after the brace that opens. -/
def bounds? (extended : Bool) (text : Text) : Except Fault ((Nat × Option Nat) × Text) :=
  let (low, rest) := text.span Char.isDigit
  let number := Arithmetic.ofDigits 10
  let (most, rest) : Option Nat × Text := match rest with
    | ',' :: rest =>
      let (high, rest) := rest.span Char.isDigit
      (if high.isEmpty then none else some (number high), rest)
    | rest => (some (number low), rest)
  let rest? := if extended then rest.head?.map fun c => ([c], rest.drop 1)
    else if rest.length < 2 then none else some (rest.take 2, rest.drop 2)
  match rest? with
  | none => .error .openBrace
  | some (closing, rest) =>
    if closing = (if extended then ['\x7d'] else ['\\', '\x7d']) then .ok ((number low, most), rest)
    else .error .badBrace

mutual

/-- Alternatives, with the number of the next group. -/
def alternatives (extended : Bool) (groups : Nat) :
    Nat → Text → Except Fault (Regex × Nat × Text)
  | 0, _ => .error .openGroup
  | bound + 1, text => do
    let (first, groups, rest) ← sequence extended groups .empty true bound text
    match ← sign? extended rest with
    | some (.bar, rest) => do
      let (second, groups, rest) ← alternatives extended groups bound rest
      .ok (.or first second, groups, rest)
    | _ => .ok (first, groups, rest)

/-- Parts one after the other, after some that were read. -/
def sequence (extended : Bool) (groups : Nat) (before : Regex) (isFirst : Bool) :
    Nat → Text → Except Fault (Regex × Nat × Text)
  | 0, _ => .error .openGroup
  | bound + 1, text => do
    let part (r : Regex) (groups : Nat) (rest : Text) : Except Fault (Regex × Nat × Text) := do
      let (r, rest) ← repeated extended r bound rest
      sequence extended groups (if before = .empty then r else .cat before r) false bound rest
    match ← sign? extended text with
    | none | some (.bar, _) | some (.close, _) => .ok (before, groups, text)
    | some (.plain r, rest) =>
      match r with
      | .back n => if groups ≤ n then .error .noGroup else part r groups rest
      | r => part r groups rest
    | some (.open_, rest) => do
      let number := groups
      let (inside, groups, rest) ← alternatives extended (groups + 1) bound rest
      match ← sign? extended rest with
      | some (.close, rest) => part (.group number inside) groups rest
      | _ => .error .openGroup
    | some (.caret, rest) =>
      let anchored := if before = .empty then Regex.start else .cat before .start
      if !isFirst && !extended then part (.char '^') groups rest
      else if !extended && rest.head? = some '*' then
        -- A star after a caret stands for itself.
        sequence extended groups (.cat anchored (.char '*')) false bound (rest.drop 1)
      else sequence extended groups anchored true bound rest
    | some (.dollar, rest) =>
      let isEnd : Bool := match sign? extended rest with
        | .ok none | .ok (some (.bar, _)) | .ok (some (.close, _)) => true
        | _ => false
      if isEnd || extended then part .stop groups rest else part (.char '$') groups rest
    | some (.star, rest) =>
      if extended then part .empty groups rest else part (.char '*') groups rest
    | some (.plus, rest) => part (if extended then .empty else .char '+') groups rest
    | some (.question, rest) => part (if extended then .empty else .char '?') groups rest
    | some (.brace, rest) =>
      if extended then part (.char '\x7b') groups rest else .error .nothingToRepeat

/-- A part with the signs that repeat it. -/
def repeated (extended : Bool) (r : Regex) : Nat → Text → Except Fault (Regex × Text)
  | 0, _ => .error .openGroup
  | bound + 1, text => do
    match ← sign? extended text with
    | some (.star, rest) => repeated extended (.times r 0 none) bound rest
    | some (.plus, rest) => repeated extended (.times r 1 none) bound rest
    | some (.question, rest) => repeated extended (.times r 0 (some 1)) bound rest
    | some (.brace, rest) =>
      match bounds? extended rest with
      | .ok ((least, most), rest) => repeated extended (.times r least most) bound rest
      | .error fault => if extended then .ok (r, text) else .error fault
    | _ => .ok (r, text)

end

/-- The expression that a text is, given the number of its first group. A parenthesis that closes
nothing stands for itself, or it is an error. The first argument bounds the depth. -/
def parseFrom (extended lenient : Bool) : (bound groups : Nat) → Text → Except Fault Regex
  | 0, _, _ => .error .openGroup
  | bound + 1, groups, text => do
    match ← alternatives extended groups bound text with
    | (r, _, []) => .ok r
    | (r, groups, c :: rest) =>
      if lenient then .ok (.cat r (.cat (.char c) (← parseFrom extended lenient bound groups rest)))
      else .error .closedGroup

/-- The expression that a text is. -/
def parse (extended lenient : Bool) (text : Text) : Except Fault Regex :=
  parseFrom extended lenient (4 * text.length + 8) 1 text

/-- The number of groups of an expression. -/
def groups : Regex → Nat
  | .group _ r => groups r + 1
  | .cat a b | .or a b => groups a + groups b
  | .times r _ _ => groups r
  | _ => 0

/-- The expression that stands for a text itself. -/
def ofText (text : Text) : Regex := text.foldr (fun c r => .cat (.char c) r) .empty

/-! ## Matching -/

/-- A place in a text. -/
structure Place where
  before : Option Char := none
  rest : Text
  position : Nat := 0
  /-- Where groups start and end, and their texts. -/
  groups : List (Nat × Text) := []

/-- A place some characters further on. -/
def Place.advance (p : Place) (n : Nat) : Place :=
  if n = 0 then p
  else { p with before := p.rest[n - 1]?, rest := p.rest.drop n, position := p.position + n }

def swapCase (c : Char) : Char := if c.isUpper then c.toLower else c.toUpper

/-- What characters an expression fits that always fits one character. -/
def single? (folds : Bool) : Regex → Option (Char → Bool)
  | .char d => some fun c => c == d || folds && swapCase c == d
  | .any => some fun _ => true
  | .set among ranges => some fun c =>
    let fits (c : Char) := ranges.any fun (a, b) => a ≤ c && c ≤ b
    (fits c || folds && fits (swapCase c)) == among
  | _ => none

def isWordChar (c : Option Char) : Bool :=
  (c.map fun c => wordRanges.any fun (a, b) => a ≤ c && c ≤ b).getD false

/-- The first of the results for so many steps and fewer ones, down to the least number. -/
def longest {α : Type} (least : Nat) (try_ : Nat → Option α) : Nat → Option α
  | 0 => if least = 0 then try_ 0 else none
  | n + 1 =>
    if n + 1 < least then none
    else match try_ (n + 1) with
      | some a => some a
      | none => longest least try_ n

/-- Where an expression and what follows it end that fit at a place. The first argument bounds
the depth. -/
def follow (folds : Bool) : Nat → Regex → Place → (Place → Option Place) → Option Place
  | 0, _, _, _ => none
  | bound + 1, r, p, next =>
    match r with
    | .empty => next p
    | .start => if p.before.isNone then next p else none
    | .stop => if p.rest.isEmpty then next p else none
    | .edge begins ends =>
      let (a, b) := (isWordChar p.before, isWordChar p.rest.head?)
      if begins && !a && b || ends && a && !b then next p else none
    | .group number r =>
      follow folds bound r p fun q =>
        next { q with groups := (number, p.rest.take (q.position - p.position)) ::
          q.groups.filter (·.1 != number) }
    | .back number =>
      let text := (p.groups.lookup number).getD []
      if text.isPrefixOf p.rest then next (p.advance text.length) else none
    | .cat a b => follow folds bound a p fun q => follow folds bound b q next
    | .or a b =>
      match follow folds bound a p next, follow folds bound b p next with
      | some x, some y => if x.position < y.position then some y else some x
      | some x, none => some x
      | none, y => y
    | .times r least most =>
      match single? folds r with
      | some fits =>
        let run := (p.rest.takeWhile fits).length
        longest least (fun n => next (p.advance n)) (match most with
          | some most => min most run
          | none => run)
      | none =>
        let further := if most = some 0 then none
          else follow folds bound r p fun q =>
            if q.position = p.position then none
            else follow folds bound (.times r (least - 1) (most.map (· - 1))) q next
        match further with
        | some q => some q
        | none => if least = 0 then next p else none
    | r =>
      match single? folds r, p.rest with
      | some fits, c :: _ => if fits c then next (p.advance 1) else none
      | _, _ => none

/-- How deep an expression may go. -/
def depth : Nat := 1000000

/-- A text that fits. -/
structure Match where
  start : Nat
  length : Nat
  groups : List (Nat × Text)

/-- The match at a place. -/
def matchAt (folds : Bool) (r : Regex) (p : Place) : Option Match :=
  (follow folds depth r { p with groups := [] } some).map fun q =>
    { start := p.position, length := q.position - p.position, groups := q.groups }

/-- The first match from a place on. -/
def firstFrom (folds : Bool) (r : Regex) (before : Option Char) (position : Nat) :
    Text → Option Match
  | [] => matchAt folds r { before, rest := [], position }
  | c :: rest =>
    match matchAt folds r { before, rest := c :: rest, position } with
    | some m => some m
    | none => firstFrom folds r (some c) (position + 1) rest

/-- The first match in a text. -/
def first? (folds : Bool) (r : Regex) (text : Text) : Option Match := firstFrom folds r none 0 text

/-- All matches in a text that do not overlap. An empty one right after another one does not
count, so there is a place where none may be. The first argument bounds their number. -/
def allFrom (folds : Bool) (r : Regex) :
    Nat → Option Nat → Option Char → Nat → Text → List Match
  | 0, _, _, _, _ => []
  | bound + 1, barred, before, position, text =>
    match firstFrom folds r before position text with
    | none => []
    | some m =>
      let used := m.start - position + m.length
      if m.length = 0 then
        let found := if barred = some m.start then [] else [m]
        match text.drop used with
        | [] => found
        | c :: rest => found ++ allFrom folds r bound none (some c) (position + used + 1) rest
      else m :: allFrom folds r bound (some (m.start + m.length)) (text[used - 1]?)
        (position + used) (text.drop used)

def all (folds : Bool) (r : Regex) (text : Text) : List Match :=
  allFrom folds r (2 * text.length + 2) none none 0 text

end Regex

end DebugAdapter.Shell
