import DebugAdapter.Environment.Shell.Syntax
import DebugAdapter.Number.Power

/-! # Arithmetic in shell programs

Expressions over integers of 64 bits and variables. -/

namespace DebugAdapter.Shell.Arithmetic

/-! ## Integers -/

/-- An integer of 64 bits, the nearest one to a number. -/
def clamp (n : Int) : Int := max (-2 ^ 63) (min (2 ^ 63 - 1) n)

/-- An integer of 64 bits, reduced by multiples of two to the sixty-fourth power. -/
def wrap (n : Int) : Int := n.bmod (2 ^ 64)

def isSpace (c : Char) : Bool := c == ' ' || '\t' ≤ c && c ≤ '\r'

def skip (text : Text) : Text := text.dropWhile isSpace

def digitValue (c : Char) : Nat := if c.isDigit then c.toNat - 48 else c.toLower.toNat - 87

def isDigitOf (base : Nat) (c : Char) : Bool :=
  (c.isDigit || 'a' ≤ c.toLower && c.toLower ≤ 'z') && digitValue c < base

/-- The number that digits make. -/
def ofDigits (base : Nat) (digits : Text) : Nat :=
  digits.foldl (fun n d => n * base + digitValue d) 0

/-- Digits in a base, at least one. -/
def digits? (base : Nat) (text : Text) : Option (Nat × Text) :=
  let (ds, rest) := text.span (isDigitOf base)
  if ds.isEmpty then none else some (ofDigits base ds, rest)

/-- Digits whose base shows at their start. -/
def unsigned? (text : Text) : Option (Nat × Text) :=
  match text with
  | '0' :: x :: rest =>
    if x = 'x' ∨ x = 'X' then (digits? 16 rest).or (some (0, x :: rest))
    else (digits? 8 (x :: rest)).or (some (0, x :: rest))
  | text => digits? 10 text

/-- A number at the start of a text, with blanks and a sign before it. -/
def prefixed? (read : Text → Option (Nat × Text)) (text : Text) : Option (Int × Text) :=
  match skip text with
  | '-' :: rest => (read rest).map fun (n, rest) => (clamp (-n), rest)
  | '+' :: rest => (read rest).map fun (n, rest) => (clamp n, rest)
  | rest => (read rest).map fun (n, rest) => (clamp n, rest)

/-- The integer that a text is, in any base. -/
def integer? (text : Text) : Option Int :=
  match prefixed? unsigned? text with
  | some (n, rest) => if skip rest = [] then some n else none
  | none => none

/-- The integer that a text is, in base ten and not too big. -/
def decimal? (text : Text) : Option Int :=
  let sign : Int := if (skip text).head? = some '-' then -1 else 1
  match prefixed? (digits? 10) text with
  | some (n, rest) =>
    let exact := (((skip text).filter Char.isDigit).foldl (fun n d => n * 10 + digitValue d) 0 : Nat)
    if skip rest = [] ∧ n = sign * exact then some n else none
  | none => none

/-- The natural number that a text of digits is. -/
def natural? (text : Text) : Option Nat :=
  if !text.isEmpty && text.all Char.isDigit then
    let n := ofDigits 10 text
    if n < 2 ^ 31 then some n else none
  else none

/-! ## Expressions -/

inductive Binary where
  | or | and | bitOr | bitXor | bitAnd | eq | ne | le | ge | lt | gt
  | left | right | add | sub | mul | quot | rem
  deriving DecidableEq, Repr

inductive Unary where
  | minus | plus | not_ | invert
  deriving DecidableEq, Repr

inductive Expression where
  | number (n : Int)
  | variable_ (name : Text)
  | unary (op : Unary) (a : Expression)
  | binary (op : Binary) (a b : Expression)
  | choice (test yes no : Expression)
  /-- Assigns a value, joined with the one before by an operator if there is one. -/
  | assign (name : Text) (op : Option Binary) (value : Expression)

/-- Why an expression has no value. -/
inductive Failure where
  | divisionByZero
  | noOperand
  | noColon
  | noParenthesis
  /-- Something follows the expression. -/
  | leftOver
  /-- The value of a variable is no number. -/
  | noNumber (text : Text)
  deriving DecidableEq, Repr

def Failure.message : Failure → String
  | .divisionByZero => "division by zero"
  | .noOperand => "expecting primary"
  | .noColon => "expecting ':'"
  | .noParenthesis => "expecting ')'"
  | .leftOver => "expecting EOF"
  | .noNumber _ => "Illegal number"

/-- The binary operators, from those that bind least to those that bind most. A longer sign
comes before those it starts with. -/
def operators : List (List (String × Binary)) :=
  [[("||", .or)], [("&&", .and)], [("|", .bitOr)], [("^", .bitXor)], [("&", .bitAnd)],
    [("==", .eq), ("!=", .ne)], [("<=", .le), (">=", .ge), ("<", .lt), (">", .gt)],
    [("<<", .left), (">>", .right)], [("+", .add), ("-", .sub)],
    [("*", .mul), ("/", .quot), ("%", .rem)]]

/-- All signs, longer ones first. -/
def signs : List String :=
  ["<<=", ">>=", "||", "&&", "==", "!=", "<=", ">=", "<<", ">>", "+=", "-=", "*=", "/=", "%=",
    "&=", "|=", "^=", "|", "^", "&", "<", ">", "+", "-", "*", "/", "%", "=", "!", "~", "(", ")",
    "?", ":"]

/-- The sign at the start of a text. -/
def sign? (text : Text) : Option (String × Text) :=
  signs.findSome? fun sign =>
    if sign.toList.isPrefixOf text then some (sign, text.drop sign.length) else none

/-- The signs that assign, with the operators that they apply. -/
def assignments : List (String × Option Binary) :=
  [("=", none), ("+=", some .add), ("-=", some .sub), ("*=", some .mul), ("/=", some .quot),
    ("%=", some .rem), ("<<=", some .left), (">>=", some .right), ("&=", some .bitAnd),
    ("|=", some .bitOr), ("^=", some .bitXor)]

def isNameStart (c : Char) : Bool := c.isAlpha || c == '_'

/-- A name at the start of a text. -/
def name? (text : Text) : Option (Text × Text) :=
  match text with
  | c :: _ => if isNameStart c then some (text.span fun c => c.isAlphanum || c == '_') else none
  | [] => none

mutual

/-- An expression: an assignment, a choice, or operators. -/
def expression : Nat → Text → Except Failure (Expression × Text)
  | 0, _ => .error .noOperand
  | bound + 1, text => do
    let text := skip text
    let assignment := do
      let (name, rest) ← name? text
      let (sign, rest) ← sign? (skip rest)
      let op ← assignments.lookup sign
      some (name, op, rest)
    match assignment with
    | some (name, op, rest) =>
      let (value, rest) ← expression bound rest
      .ok (.assign name op value, rest)
    | none =>
      let (test, rest) ← level operators bound text
      match sign? (skip rest) with
      | some ("?", rest) =>
        let (yes, rest) ← expression bound rest
        match sign? (skip rest) with
        | some (":", rest) =>
          let (no, rest) ← expression bound rest
          .ok (.choice test yes no, rest)
        | _ => .error .noColon
      | _ => .ok (test, rest)

/-- Operands of some operators and of those that bind more. -/
def level (levels : List (List (String × Binary))) :
    Nat → Text → Except Failure (Expression × Text)
  | 0, _ => .error .noOperand
  | bound + 1, text =>
    match levels with
    | [] => operand bound text
    | ops :: higher => do
      let (a, rest) ← level higher bound text
      more ops higher a bound rest

/-- The further operands of operators of one kind. -/
def more (ops : List (String × Binary)) (higher : List (List (String × Binary)))
    (a : Expression) : Nat → Text → Except Failure (Expression × Text)
  | 0, _ => .error .noOperand
  | bound + 1, text =>
    match (sign? (skip text)).bind fun (sign, rest) => (ops.lookup sign).map (·, rest) with
    | none => .ok (a, text)
    | some (op, rest) => do
      let (b, rest) ← level higher bound rest
      more ops higher (.binary op a b) bound rest

/-- A number, a variable, or an expression in parentheses, with signs before it. -/
def operand : Nat → Text → Except Failure (Expression × Text)
  | 0, _ => .error .noOperand
  | bound + 1, text =>
    let text := skip text
    match name? text, unsigned? text with
    | some (name, rest), _ => .ok (.variable_ name, rest)
    | none, some (n, rest) => .ok (.number (clamp n), rest)
    | none, none =>
      let signed (op : Unary) (rest : Text) : Except Failure (Expression × Text) := do
        let (a, rest) ← operand bound rest
        .ok (.unary op a, rest)
      match sign? text with
      | some ("-", rest) => signed .minus rest
      | some ("+", rest) => signed .plus rest
      | some ("!", rest) => signed .not_ rest
      | some ("~", rest) => signed .invert rest
      | some ("(", rest) => do
        let (a, rest) ← expression bound rest
        match sign? (skip rest) with
        | some (")", rest) => .ok (a, rest)
        | _ => .error .noParenthesis
      | _ => .error .noOperand

end

/-- The expression that a text is. -/
def parse (text : Text) : Except Failure Expression := do
  let (e, rest) ← expression (16 * text.length + 64) text
  if skip rest = [] then .ok e else .error .leftOver

/-! ## Values -/

/-- Variables and what was assigned to them last. -/
abbrev Names := List (Text × Text)

def Unary.apply : Unary → Int → Int
  | .minus, a => wrap (-a)
  | .plus, a => a
  | .not_, a => if a = 0 then 1 else 0
  | .invert, a => -a - 1

/-- The bits of an integer. -/
def bits (n : Int) : BitVec 64 := BitVec.ofInt 64 n

def Binary.apply (op : Binary) (a b : Int) : Except Failure Int :=
  let test (p : Bool) : Except Failure Int := .ok (if p then 1 else 0)
  match op with
  | .or => test (a != 0 || b != 0)
  | .and => test (a != 0 && b != 0)
  | .bitOr => .ok (bits a ||| bits b).toInt
  | .bitXor => .ok (bits a ^^^ bits b).toInt
  | .bitAnd => .ok (bits a &&& bits b).toInt
  | .eq => test (a == b)
  | .ne => test (a != b)
  | .le => test (a ≤ b)
  | .ge => test (a ≥ b)
  | .lt => test (a < b)
  | .gt => test (a > b)
  | .left => .ok (bits a <<< (b % 64).toNat).toInt
  | .right => .ok ((bits a).sshiftRight (b % 64).toNat).toInt
  | .add => .ok (wrap (a + b))
  | .sub => .ok (wrap (a - b))
  | .mul => .ok (wrap (a * b))
  | .quot => if b = 0 then .error .divisionByZero else .ok (wrap (a.tdiv b))
  | .rem => if b = 0 then .error .divisionByZero else .ok (a.tmod b)

/-- The value of a variable, zero if it has none. -/
def valueOf (names : Names) (name : Text) : Except Failure Int :=
  match names.lookup name with
  | none | some [] => .ok 0
  | some text =>
    match integer? text with
    | some n => .ok n
    | none => .error (.noNumber text)

/-- The value of an expression, and the variables after it. An operand that does not matter is
left out. -/
def Expression.value (names : Names) : Expression → Except Failure (Int × Names)
  | .number n => .ok (n, names)
  | .variable_ name => do return (← valueOf names name, names)
  | .unary op a => do
    let (a, names) ← a.value names
    .ok (op.apply a, names)
  | .binary op a b => do
    let (a, names) ← a.value names
    if op = .or ∧ a ≠ 0 then .ok (1, names)
    else if op = .and ∧ a = 0 then .ok (0, names)
    else
      let (b, names) ← b.value names
      .ok (← op.apply a b, names)
  | .choice test yes no => do
    let (test, names) ← test.value names
    if test ≠ 0 then yes.value names else no.value names
  | .assign name op value => do
    let (value, names) ← value.value names
    let result ← match op with
      | none => pure value
      | some op => op.apply (← valueOf names name) value
    .ok (result, (name, decimal result) :: names.filter (·.1 != name))

/-- The value of a text, and the variables after it. -/
def evaluate (names : Names) (text : Text) : Except Failure (Int × Names) := do
  (← parse text).value names

end DebugAdapter.Shell.Arithmetic
