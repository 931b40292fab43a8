import DebugAdapter.Number.Binary64
import DebugAdapter.Text.Decimal
import DebugAdapter.Toml.Value

/-! # TOML literals

Booleans, numbers, dates and times: words of letters, digits and a few signs. -/

namespace DebugAdapter.Toml.Literal

/-! ## Digits -/

/-- The value of a digit in base sixteen. -/
def hexValue? (c : Char) : Option Nat :=
  if '0' ≤ c ∧ c ≤ '9' then some (c.toNat - '0'.toNat)
  else if 'a' ≤ c ∧ c ≤ 'f' then some (c.toNat - 'a'.toNat + 10)
  else if 'A' ≤ c ∧ c ≤ 'F' then some (c.toNat - 'A'.toNat + 10)
  else none

/-- The value of a digit in a base up to sixteen. -/
def digit? (base : Nat) (c : Char) : Option Nat := (hexValue? c).filter (· < base)

def isDigit (c : Char) : Bool := (digit? 10 c).isSome

/-- Digits in groups, which underscores divide: the digits alone. -/
def ungrouped? (base : Nat) : List Char → Option (List Nat)
  | [] => none
  | [c] => (digit? base c).map ([·])
  | c :: '_' :: rest => do (← digit? base c) :: (← ungrouped? base rest)
  | c :: rest => do (← digit? base c) :: (← ungrouped? base rest)

/-- The number that some digits stand for. -/
def number (base : Nat) (digits : List Nat) : Nat := digits.foldl (fun n d => n * base + d) 0

/-- Whether there is a minus sign, and what follows a sign. -/
def signed : List Char → Bool × List Char
  | '-' :: rest => (true, rest)
  | '+' :: rest => (false, rest)
  | word => (false, word)

/-- The digits of a decimal number, in which a zero at the front stands alone. -/
def whole? (word : List Char) : Option (List Nat) :=
  (ungrouped? 10 word).filter fun digits => digits.length = 1 ∨ digits.head? ≠ some 0

/-! ## Numbers -/

/-- The digits in another base than ten, after a prefix that names it. -/
def based? : List Char → Option Nat
  | '0' :: 'x' :: rest => (ungrouped? 16 rest).map (number 16)
  | '0' :: 'o' :: rest => (ungrouped? 8 rest).map (number 8)
  | '0' :: 'b' :: rest => (ungrouped? 2 rest).map (number 2)
  | _ => none

/-- An integer of 64 bits. -/
def integer? (word : List Char) : Option Int :=
  let n? : Option Int := match based? word with
    | some n => some n
    | none =>
      let (negative, digits) := signed word
      (whole? digits).map fun digits =>
        if negative then -(number 10 digits : Int) else number 10 digits
  n?.filter fun n => -2 ^ 63 ≤ n ∧ n < 2 ^ 63

/-- The power of ten that an exponent names, zero if there is none. -/
def exponent? : List Char → Option Int
  | [] => some 0
  | e :: rest =>
    if e = 'e' ∨ e = 'E' then
      let (negative, digits) := signed rest
      (ungrouped? 10 digits).map fun digits =>
        if negative then -(number 10 digits : Int) else number 10 digits
    else none

/-- Whether a number in base ten lies below the numbers that round to infinity. -/
def isFinite (digits : List Nat) (power : Int) : Bool :=
  let significant := digits.dropWhile (· = 0)
  let magnitude := power + significant.length
  if significant = [] ∨ magnitude < -400 then true
  else if 400 < magnitude then false
  else
    let n := number 10 significant
    (if power < 0 then Binary64.ofFraction false n (10 ^ power.natAbs)
      else Binary64.ofNat (n * 10 ^ power.natAbs)).isSome

def isGrouped (c : Char) : Bool := isDigit c || c == '_'

/-- Whether a word is a number with a fraction or an exponent. A positive one is finite unless
it is written out as infinite. -/
def isFloat (word : List Char) : Bool :=
  let (negative, rest) := signed word
  if rest = ['i', 'n', 'f'] ∨ rest = ['n', 'a', 'n'] then true
  else
    let (digits, rest) := rest.span isGrouped
    let (fraction, rest) := match rest with
      | '.' :: rest => let (fraction, rest) := rest.span isGrouped; (some fraction, rest)
      | rest => (none, rest)
    match whole? digits, fraction.mapM (ungrouped? 10), exponent? rest with
    | some digits, some fraction, some power =>
      (fraction.isSome || rest != []) &&
        (negative || isFinite (digits ++ fraction.getD []) (power - (fraction.getD []).length))
    | _, _, _ => false

/-! ## Dates and times -/

/-- The number that two digits stand for. -/
def pair? (a b : Char) : Option Nat := do (← digit? 10 a) * 10 + (← digit? 10 b)

def daysInMonth (year month : Nat) : Nat :=
  if month = 2 then
    if year % 4 = 0 ∧ (year % 100 ≠ 0 ∨ year % 400 = 0) then 29 else 28
  else if month = 4 ∨ month = 6 ∨ month = 9 ∨ month = 11 then 30
  else 31

/-- What follows a date at the start of a word. -/
def afterDate? : List Char → Option (List Char)
  | a :: b :: c :: d :: '-' :: e :: f :: '-' :: g :: h :: rest => do
    let year := (← pair? a b) * 100 + (← pair? c d)
    let month ← pair? e f
    let day ← pair? g h
    if 1 ≤ month ∧ month ≤ 12 ∧ 1 ≤ day ∧ day ≤ daysInMonth year month then rest else none
  | _ => none

/-- What follows the hour and the minute at the start of a word. -/
def afterMinute? : List Char → Option (List Char)
  | a :: b :: ':' :: c :: d :: rest => do
    if (← pair? a b) ≤ 23 ∧ (← pair? c d) ≤ 59 then rest else none
  | _ => none

/-- What follows a time at the start of a word. A minute may have a leap second. -/
def afterTime? (word : List Char) : Option (List Char) := do
  match ← afterMinute? word with
  | ':' :: a :: b :: rest =>
    if (← pair? a b) ≤ 60 then
      match rest with
      | '.' :: c :: rest => if isDigit c then rest.dropWhile isDigit else none
      | '.' :: [] => none
      | rest => rest
    else none
  | _ => none

/-- Whether a word is the distance of a time zone. -/
def isOffset : List Char → Bool
  | ['Z'] | ['z'] => true
  | sign :: rest => (sign == '+' || sign == '-') && afterMinute? rest == some []
  | [] => false

/-- Whether a word is a time with an optional distance of its time zone. -/
def isZonedTime (word : List Char) : Bool :=
  (afterTime? word).any fun rest => rest.isEmpty || isOffset rest

/-- Whether a word is a date. -/
def isDate (word : List Char) : Bool := afterDate? word == some []

/-- Whether a word is a date with an optional time, or a time. -/
def isMoment (word : List Char) : Bool :=
  afterTime? word == some [] || match afterDate? word with
    | none => false
    | some [] => true
    | some (c :: rest) => (c == 'T' || c == 't') && isZonedTime rest

/-! ## Words -/

/-- Whether a character can be part of a word. -/
def isWordChar (c : Char) : Bool := c.isAlphanum || "_+-:.".contains c

/-- The value of a word. -/
def ofWord? (word : List Char) : Option Value :=
  if word = "true".toList then some (.boolean true)
  else if word = "false".toList then some (.boolean false)
  else if isMoment word then some (.moment (String.ofList word))
  else match integer? word with
    | some n => some (.integer n)
    | none => if isFloat word then some (.float (String.ofList word)) else none

/-- The literal at the start of a text. A blank may stand between a date and its time. -/
def read (text : List Char) : Option (Value × List Char) :=
  let (word, rest) := text.span isWordChar
  match isDate word, rest with
  | true, ' ' :: c :: more =>
    let (time, after) := (c :: more).span isWordChar
    if isZonedTime time then some (.moment (String.ofList (word ++ ' ' :: time)), after)
    else (ofWord? word).map (·, rest)
  | _, _ => (ofWord? word).map (·, rest)

end DebugAdapter.Toml.Literal
