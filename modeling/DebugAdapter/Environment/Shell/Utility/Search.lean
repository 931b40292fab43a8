import DebugAdapter.Environment.Shell.Regex
import DebugAdapter.Environment.Shell.Utility.Basic

/-! # Utilities that look for patterns -/

namespace DebugAdapter.Shell.Utility

open Effect

/-! ## Lines that fit a pattern -/

/-- The parts of a line that fit one of some patterns; those of a word or a whole line only if
that is wanted. -/
def matchesIn (options : Options) (patterns : List Regex) (text : Text) : List Text :=
  let folds := options.has 'i' || options.has 'y'
  let isWhole (m : Regex.Match) : Bool :=
    if options.has 'x' then m.start = 0 && m.length = text.length
    else if options.has 'w' then
      let word (i : Nat) := Regex.isWordChar text[i]?
      !(0 < m.start && word (m.start - 1)) && !word (m.start + m.length)
    else true
  let found := patterns.flatMap fun r => (Regex.all folds r text).filter isWhole
  (found.mergeSort fun a b => a.start ≤ b.start).map fun m => (text.drop m.start).take m.length

/-- A pattern as it is written. -/
def pattern? (options : Options) (extended : Bool) (text : Text) : Except Text Regex :=
  let whole (r : Regex) : Regex := if options.has 'x' then .cat .start (.cat r .stop) else r
  if options.has 'F' then .ok (whole (Regex.ofText text))
  else match Regex.parse extended extended text with
    | .ok r => .ok (whole (.group 0 r))
    | .error fault => .error fault.message.toList

/-- The lines of files that fit a pattern. -/
def grep (extended fixed : Bool) : Utility := fun name args =>
  withOptions name 2 "EFGivcnlLqshHowxyarzZ" "emABC" (spelledOut 'C' args) fun options words => do
    let extended := (extended || options.has 'E') && !options.has 'G'
    let options : Options := if fixed then ('F', []) :: options else options
    let given := options.filter (·.1 == 'e')
    match given, words with
    | [], [] => do
      report ("Usage: ".toList ++ name ++ " [OPTION]... PATTERNS [FILE]...\n".toList ++
        "Try '".toList ++ name ++ " --help' for more information.\n".toList)
      endWith 2
    | _, _ =>
      let (texts, files) := if given.isEmpty then (words.take 1, words.drop 1)
        else (given.map (·.2), words)
      match (texts.flatMap (Text.between '\n')).mapM (pattern? options extended) with
      | .error message => stop name 2 message
      | .ok patterns => do
        let titled := options.has 'H' || 1 < files.length && !options.has 'h'
        let most := (options.last? 'm').bind Arithmetic.natural?
        let mut found := false
        let mut failed := false
        for file in (if files.isEmpty then [['-']] else files) do
          match ← contents file none with
          | .error e => do
            failed := true
            if !options.has 's' then say name (bareError file e)
          | .ok text => do
            let shown := if file = ['-'] then "(standard input)".toList else file
            let fits (line : Text) : Bool :=
              (matchesIn options patterns line).isEmpty == options.has 'v'
            let hits := (bareLines text).zipIdx.filter fun (line, _) => fits line
            let hits := match most with
              | some n => hits.take n
              | none => hits
            if !hits.isEmpty then found := true
            let title := if titled then shown ++ [':'] else []
            if options.has 'q' then pure ()
            else if options.has 'L' then
              if hits.isEmpty then put name (ended shown)
            else if options.has 'l' then
              if !hits.isEmpty then put name (ended shown)
            else if options.has 'c' then put name (ended (title ++ decimal hits.length))
            else if text.contains '\x00' && !options.has 'a' then
              if !hits.isEmpty then
                put name (ended (name ++ ": ".toList ++ shown ++ ": binary file matches".toList))
            else
              put name (hits.flatMap fun (line, i) =>
                let title := title ++ if options.has 'n' then decimal (i + 1) ++ [':'] else []
                if options.has 'o' then
                  if options.has 'v' then []
                  else ((matchesIn options patterns line).filter (!·.isEmpty)).flatMap fun part =>
                    ended (title ++ part)
                else ended (title ++ line))
        if ← isOn then finish (if failed && !(found && options.has 'q') then 2
          else if found then 0 else 1)

/-! ## Expressions -/

/-- What is wrong with an expression. -/
inductive ExprFault where
  | noInteger
  | divisionByZero
  | missing (after : Text)
  | unexpected (word : Text)
  | noOperand
  | noClosing (after : Text)
  | badPattern (message : String)
  deriving DecidableEq, Repr

def ExprFault.message : ExprFault → Text
  | .noInteger => "non-integer argument".toList
  | .divisionByZero => "division by zero".toList
  | .missing after => "syntax error: missing argument after ".toList ++ quoted after
  | .unexpected word => "syntax error: unexpected argument ".toList ++ quoted word
  | .noOperand => "missing operand".toList
  | .noClosing after => "syntax error: expecting ')' after ".toList ++ quoted after
  | .badPattern message => message.toList

/-- The integer that a word is, without blanks or a plus sign. -/
def exprInteger? (word : Text) : Option Int :=
  match word with
  | '-' :: ds => if !ds.isEmpty && ds.all Char.isDigit then some (-(Arithmetic.ofDigits 10 ds)) else none
  | ds => if !ds.isEmpty && ds.all Char.isDigit then some (Arithmetic.ofDigits 10 ds) else none

/-- Whether a value counts as none. -/
def isNull (word : Text) : Bool := word.isEmpty || exprInteger? word == some 0

/-- What a text has in common with a pattern: the text of a group, or a length. -/
def exprMatch (text pattern : Text) : Except ExprFault Text :=
  match Regex.parse false false pattern with
  | .error fault => .error (.badPattern fault.message)
  | .ok r =>
    let hasGroup := (pattern.zip (pattern.drop 1)).contains ('\\', '(')
    match Regex.matchAt false r { rest := text } with
    | some m => .ok (if hasGroup then (m.groups.lookup 1).getD [] else decimal m.length)
    | none => .ok (if hasGroup then [] else ['0'])

/-- The operators, from those that bind least to those that bind most. -/
def exprOperators : List (List String) :=
  [["|"], ["&"], ["<", "<=", "=", "==", "!=", ">=", ">"], ["+", "-"], ["*", "/", "%"], [":"]]

def exprApply (op : String) (a b : Text) : Except ExprFault Text := do
  let truth (p : Bool) : Except ExprFault Text := .ok (if p then ['1'] else ['0'])
  let order := match exprInteger? a, exprInteger? b with
    | some x, some y => compare x y
    | _, _ => compareOfLessAndEq a b
  let numbers : Except ExprFault (Int × Int) := match exprInteger? a, exprInteger? b with
    | some x, some y => .ok (x, y)
    | _, _ => .error .noInteger
  match op with
  | "|" => .ok (if isNull a then (if isNull b then ['0'] else b) else a)
  | "&" => .ok (if isNull a || isNull b then ['0'] else a)
  | "<" => truth (order == .lt)
  | "<=" => truth (order != .gt)
  | "=" | "==" => truth (order == .eq)
  | "!=" => truth (order != .eq)
  | ">=" => truth (order != .lt)
  | ">" => truth (order == .gt)
  | "+" => do let (x, y) ← numbers; .ok (decimal (x + y))
  | "-" => do let (x, y) ← numbers; .ok (decimal (x - y))
  | "*" => do let (x, y) ← numbers; .ok (decimal (x * y))
  | "/" => do
    let (x, y) ← numbers
    if y = 0 then .error .divisionByZero else .ok (decimal (x.tdiv y))
  | "%" => do
    let (x, y) ← numbers
    if y = 0 then .error .divisionByZero else .ok (decimal (x.tmod y))
  | _ => exprMatch a b

mutual

/-- The value of operands of some operators; the word that was used last comes first. -/
def exprLevel (levels : List (List String)) :
    Nat → Text → List Text → Except ExprFault (Text × Text × List Text)
  | 0, _, _ => .error .noOperand
  | bound + 1, last, words =>
    match levels with
    | [] => exprOperand bound last words
    | ops :: higher => do
      let (a, last, rest) ← exprLevel higher bound last words
      exprMore ops higher a bound last rest

def exprMore (ops : List String) (higher : List (List String)) (a : Text) :
    Nat → Text → List Text → Except ExprFault (Text × Text × List Text)
  | 0, _, _ => .error .noOperand
  | bound + 1, last, words =>
    match words with
    | op :: rest =>
      if ops.contains (String.ofList op) then do
        let (b, last, rest) ← exprLevel higher bound op rest
        exprMore ops higher (← exprApply (String.ofList op) a b) bound last rest
      else .ok (a, last, words)
    | [] => .ok (a, last, [])

def exprOperand : Nat → Text → List Text → Except ExprFault (Text × Text × List Text)
  | 0, _, _ => .error .noOperand
  | _ + 1, last, [] => .error (.missing last)
  | bound + 1, _, word :: rest =>
    match String.ofList word with
    | "(" => do
      let (a, last, rest) ← exprLevel exprOperators bound word rest
      match rest with
      | [')'] :: rest => .ok (a, [')'], rest)
      | [] => .error (.noClosing last)
      | other :: _ => .error (.unexpected other)
    | ")" => .error (.unexpected word)
    | "+" =>
      match rest with
      | literal :: rest => .ok (literal, literal, rest)
      | [] => .error (.missing word)
    | "length" => do
      let (a, last, rest) ← exprOperand bound word rest
      .ok (decimal a.length, last, rest)
    | "match" => do
      let (a, last, rest) ← exprOperand bound word rest
      let (b, last, rest) ← exprOperand bound last rest
      .ok (← exprMatch a b, last, rest)
    | "index" => do
      let (a, last, rest) ← exprOperand bound word rest
      let (b, last, rest) ← exprOperand bound last rest
      let place : Nat := ((a.findIdx? b.contains).map (· + 1)).getD 0
      .ok (decimal place, last, rest)
    | "substr" => do
      let (a, last, rest) ← exprOperand bound word rest
      let (b, last, rest) ← exprOperand bound last rest
      let (c, last, rest) ← exprOperand bound last rest
      let text := match exprInteger? b, exprInteger? c with
        | some i, some n => if 0 < i ∧ 0 < n then (a.drop (i.toNat - 1)).take n.toNat else []
        | _, _ => []
      .ok (text, last, rest)
    | _ => .ok (word, word, rest)

end

/-- The value of an expression that the arguments make. -/
def expr : Utility := fun name args => do
  let args := if args.head? = some ['-', '-'] then args.drop 1 else args
  if args.isEmpty then misused name 2 ExprFault.noOperand.message
  else match exprLevel exprOperators (20 * args.length + 20) [] args with
    | .error fault => stop name 2 fault.message
    | .ok (_, _, word :: _) => stop name 2 (ExprFault.unexpected word).message
    | .ok (value, _, []) => do
      finish (if isNull value then 1 else 0)
      let status := (← get).status
      put name (ended value)
      if ← isOn then finish status

end DebugAdapter.Shell.Utility
