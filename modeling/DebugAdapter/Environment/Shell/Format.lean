import DebugAdapter.Environment.Shell.Arithmetic
import DebugAdapter.Number.Shortest

/-! # Printing

What `echo` and `printf` print. -/

namespace DebugAdapter.Shell.Format

/-! ## Escapes -/

def isOctal (c : Char) : Bool := '0' ≤ c && c ≤ '7'

/-- Up to so many octal digits, as one byte. -/
def octalByte (count : Nat) (text : Text) : Char × Text :=
  let digits := (text.take count).takeWhile isOctal
  (Char.ofNat (Arithmetic.ofDigits 8 digits % 256), text.drop digits.length)

/-- The character that a letter after a backslash stands for. -/
def letter? : Char → Option Char
  | 'a' => some '\x07'
  | 'b' => some '\x08'
  | 'f' => some '\x0c'
  | 'n' => some '\n'
  | 'r' => some '\r'
  | 't' => some '\t'
  | 'v' => some '\x0b'
  | '\\' => some '\\'
  | _ => none

/-- The character that the characters after a backslash stand for, and what follows them. -/
def escape? (text : Text) : Option (Char × Text) :=
  match text with
  | [] => none
  | c :: rest =>
    match letter? c with
    | some d => some (d, rest)
    | none => if isOctal c then some (octalByte 3 text) else none

/-- A text with its escapes replaced, and whether it goes on: `\c` ends all output. Octal numbers
may have a zero in front of them. -/
def unescape : Nat → Text → Text × Bool
  | 0, text => (text, true)
  | _ + 1, [] => ([], true)
  | bound + 1, '\\' :: rest =>
    match rest with
    | 'c' :: _ => ([], false)
    | '0' :: rest =>
      let (d, rest) := octalByte 3 rest
      let (text, on) := unescape bound rest
      (d :: text, on)
    | rest =>
      let (d, rest) := (escape? rest).getD ('\\', rest)
      let (text, on) := unescape bound rest
      (d :: text, on)
  | bound + 1, c :: rest => let (text, on) := unescape bound rest; (c :: text, on)

def unescaped (text : Text) : Text × Bool := unescape (text.length + 1) text

/-! ## Words -/

/-- The words with blanks between them, escapes replaced. -/
def echo (args : List Text) : Text :=
  let (ends, args) := match args with
    | ['-', 'n'] :: rest => (false, rest)
    | args => (true, args)
  let (text, on) := unescaped (spaced args)
  if on && ends then text ++ ['\n'] else text

/-- The words with blanks between them, escapes replaced only if an option asks for it. -/
def echoProgram (args : List Text) : Text :=
  let isOption (arg : Text) := match arg with
    | '-' :: c :: cs => (c :: cs).all fun c => "neE".contains c
    | _ => false
  let options := (args.takeWhile isOption).flatten
  let all := spaced (args.dropWhile isOption)
  let escapes := (options.filter fun c => c == 'e' || c == 'E').getLast? == some 'e'
  let (text, on) := if escapes then unescaped all else (all, true)
  if on && !options.contains 'n' then text ++ ['\n'] else text

/-! ## Layouts -/

/-- How a value is printed: flags, width and precision. -/
structure Layout where
  left : Bool := false
  zeros : Bool := false
  plus : Bool := false
  blank : Bool := false
  alternate : Bool := false
  width : Nat := 0
  precision : Option Nat := none
  deriving Repr

namespace Layout

/-- A text with blanks before or after it. -/
def pad (l : Layout) (text : Text) : Text :=
  let fill := List.replicate (l.width - text.length) ' '
  if l.left then text ++ fill else fill ++ text

/-- The digits of a number after its sign, with blanks or zeros. -/
def number (l : Layout) (zeros : Bool) (sign digits : Text) : Text :=
  if zeros && l.zeros && !l.left then
    sign ++ List.replicate (l.width - sign.length - digits.length) '0' ++ digits
  else l.pad (sign ++ digits)

def sign (l : Layout) (negative : Bool) : Text :=
  if negative then ['-'] else if l.plus then ['+'] else if l.blank then [' '] else []

/-- An integer by its digits, of which there are as many as the precision says. -/
def integer (l : Layout) (sign digits : Text) : Text :=
  let least := l.precision.getD 1
  let digits := if digits = ['0'] then [] else digits
  l.number l.precision.isNone sign (List.replicate (least - digits.length) '0' ++ digits)

/-- A string, cut at the precision. -/
def string (l : Layout) (text : Text) : Text :=
  l.pad (match l.precision with
    | some p => text.take p
    | none => text)

end Layout

/-! ## Fractions -/

/-- A fraction with so many places. -/
def fixed (places : Nat) (point : Bool) (num den : Nat) : Text :=
  let digits := Nat.toDigits 10 (Binary64.roundHalfEven (num * 10 ^ places) den)
  let digits := List.replicate (places + 1 - digits.length) '0' ++ digits
  let whole := digits.take (digits.length - places)
  if places = 0 then whole ++ if point then ['.'] else []
  else whole ++ '.' :: digits.drop (digits.length - places)

/-- The digits of a fraction with one digit before the point, and its power of ten. -/
def scientific (places : Nat) (num den : Nat) : Nat × Int :=
  if num = 0 then (0, 0)
  else
    let power := Shortest.magnitude num den - 1
    let (n, d) := if power < 0 then (num * 10 ^ power.natAbs, den)
      else (num, den * 10 ^ power.natAbs)
    let digits := Binary64.roundHalfEven (n * 10 ^ places) d
    if digits = 10 ^ (places + 1) then (10 ^ places, power + 1) else (digits, power)

/-- A power of ten as it is printed. -/
def power (letter : Char) (n : Int) : Text :=
  let digits := Nat.toDigits 10 n.natAbs
  letter :: (if n < 0 then '-' else '+') :: List.replicate (2 - digits.length) '0' ++ digits

def exponential (letter : Char) (places : Nat) (point : Bool) (num den : Nat) : Text :=
  let (digits, n) := scientific places num den
  fixed places point digits (10 ^ places) ++ power letter n

/-- A fraction without the zeros at its end. -/
def trimmed (text : Text) : Text :=
  if text.contains '.' then
    ((text.reverse.dropWhile (· == '0')).dropWhile (· == '.')).reverse
  else text

/-- A fraction with so many digits, in the shorter of both ways. -/
def general (letter : Char) (digits : Nat) (point : Bool) (num den : Nat) : Text :=
  let digits := max digits 1
  let (_, n) := scientific (digits - 1) num den
  let clean (text : Text) := if point then text else trimmed text
  if n < -4 ∨ digits ≤ n then
    let (ds, n) := scientific (digits - 1) num den
    clean (fixed (digits - 1) point ds (10 ^ (digits - 1))) ++ power letter n
  else clean (fixed ((digits : Int) - 1 - n).toNat point num den)

/-- The double at the start of a text, as a sign and a fraction, and what follows it. -/
def double? (text : Text) : Option ((Bool × Nat × Nat) × Text) := do
  let text := Arithmetic.skip text
  let negative := text.head? = some '-'
  let text := if negative ∨ text.head? = some '+' then text.drop 1 else text
  let (whole, rest) := text.span Char.isDigit
  let (places, rest) := match rest with
    | '.' :: after => let (ds, after) := after.span Char.isDigit; (ds, after)
    | rest => ([], rest)
  if whole.isEmpty && places.isEmpty then none
  else
    let (power, rest) : Int × Text := match rest with
      | e :: after =>
        if e = 'e' ∨ e = 'E' then
          match Arithmetic.prefixed? (Arithmetic.digits? 10) after with
          | some (n, after) => (n, after)
          | none => (0, rest)
        else (0, rest)
      | [] => (0, [])
    let digits := Arithmetic.ofDigits 10 (whole ++ places)
    let power := max (-400) (min 400 (power - places.length))
    let (n, d) := if power < 0 then (digits, 10 ^ power.natAbs) else (digits * 10 ^ power.natAbs, 1)
    match Binary64.ofFraction negative n d with
    | some x => some ((negative, x.fraction), rest)
    | none => some ((negative, n, d), rest)

/-! ## Formats -/

/-- What a format prints, and what is said about it. -/
structure Printed where
  output : Text := []
  warnings : List Text := []
  /-- Why it stopped early. -/
  failure : Option Text := none
  /-- The arguments that are left. -/
  left : List Text := []
  /-- Whether it goes on. -/
  goesOn : Bool := true

def Printed.after (p : Printed) (output : Text) (warnings : List Text) : Printed :=
  { p with output := output ++ p.output, warnings := warnings ++ p.warnings }

/-- What is said about an argument of which only the first part is a number. -/
def warning (arg rest : Text) : List Text :=
  if rest.isEmpty then []
  else if rest = arg then [arg ++ ": expected numeric value".toList]
  else [arg ++ ": not completely converted".toList]

/-- The integer that an argument is, and what is said about it. -/
def integerOf (arg : Text) : Int × List Text :=
  match arg with
  | '"' :: c :: _ | '\'' :: c :: _ => (c.toNat, [])
  | arg =>
    match Arithmetic.prefixed? Arithmetic.unsigned? arg with
    | some (n, rest) => (n, warning arg rest)
    | none => (0, warning arg arg)

def doubleOf (arg : Text) : (Bool × Nat × Nat) × List Text :=
  match double? arg with
  | some (x, rest) => (x, warning arg rest)
  | none => ((false, 0, 1), warning arg arg)

/-- The layout after a percent sign, the arguments that are left, and what follows it. -/
def layout (text : Text) (args : List Text) : Layout × List Text × Text :=
  let (flags, rest) := text.span fun c => "-0+ #".contains c
  let l : Layout := {
    left := flags.contains '-', zeros := flags.contains '0', plus := flags.contains '+'
    blank := flags.contains ' ', alternate := flags.contains '#' }
  let given (args : List Text) : Int := (integerOf (args.headD [])).1
  let (l, args, rest) : Layout × List Text × Text := match rest with
    | '*' :: rest =>
      let n := given args
      ({ l with width := n.natAbs, left := l.left || n < 0 }, args.drop 1, rest)
    | rest =>
      let (ds, rest) := rest.span Char.isDigit
      ({ l with width := Arithmetic.ofDigits 10 ds }, args, rest)
  match rest with
  | '.' :: '*' :: rest =>
    let n := given args
    ({ l with precision := if n < 0 then none else some n.toNat }, args.drop 1, rest)
  | '.' :: rest =>
    let (ds, rest) := rest.span Char.isDigit
    ({ l with precision := some (Arithmetic.ofDigits 10 ds) }, args, rest)
  | rest => (l, args, rest)

/-- A number as a conversion prints it, and what is said about it; nothing if there is no such
conversion. -/
def converted? (l : Layout) (conversion : Char) (arg : Text) : Option (Text × List Text) :=
  let unsigned (base : Nat) (before : Text) : Text × List Text :=
    let (n, said) := integerOf arg
    let n := (n % 2 ^ 64).toNat
    (l.integer (if l.alternate && n != 0 then before else []) (Nat.toDigits base n), said)
  let upper (p : Text × List Text) : Text × List Text := (p.1.map Char.toUpper, p.2)
  let real (print : Nat → Bool → Nat → Nat → Text) : Text × List Text :=
    let ((negative, num, den), said) := doubleOf arg
    (l.number true (l.sign negative) (print (l.precision.getD 6) l.alternate num den), said)
  match conversion with
  | 'd' | 'i' =>
    let (n, said) := integerOf arg
    some (l.integer (l.sign (n < 0)) (Nat.toDigits 10 n.natAbs), said)
  | 'u' => some (unsigned 10 [])
  | 'o' => some (unsigned 8 ['0'])
  | 'x' => some (unsigned 16 ['0', 'x'])
  | 'X' => some (upper (unsigned 16 ['0', 'x']))
  | 'f' | 'F' => some (real fixed)
  | 'e' | 'E' => some (real (exponential conversion))
  | 'g' => some (real (general 'e'))
  | 'G' => some (real (general 'E'))
  | _ => none

/-- The format applied once. -/
def once : Nat → Text → List Text → Printed
  | 0, _, args => { left := args, goesOn := false }
  | _ + 1, [], args => { left := args }
  | bound + 1, '%' :: '%' :: rest, args => (once bound rest args).after ['%'] []
  | bound + 1, '%' :: text, args =>
    match layout text args with
    | (_, args, []) => { failure := some "missing format character".toList, left := args }
    | (l, args, c :: rest) =>
      let arg := args.headD []
      let go (text : Text) (said : List Text) := (once bound rest (args.drop 1)).after text said
      if c = 'b' then
        let (value, on) := unescaped arg
        if on then go (l.string value) [] else { output := l.string value, goesOn := false }
      else if c = 's' then go (l.string arg) []
      else if c = 'c' then go (l.pad [arg.headD '\x00']) []
      else match converted? l c arg with
        | some (text, said) => go text said
        | none =>
          { failure := some ('%' :: text.take (text.length - rest.length) ++
              ": invalid directive".toList), left := args }
  | bound + 1, '\\' :: rest, args =>
    let (d, rest) := (escape? rest).getD ('\\', rest)
    (once bound rest args).after [d] []
  | bound + 1, c :: rest, args => (once bound rest args).after [c] []

/-- The format applied as often as there are arguments for it. -/
def repeated (format : Text) : Nat → List Text → Printed
  | 0, args => { left := args }
  | times + 1, args =>
    let p := once (format.length + 1) format args
    if p.goesOn && p.failure.isNone && !p.left.isEmpty && p.left.length < args.length then
      (repeated format times p.left).after p.output p.warnings
    else p

def printf (format : Text) (args : List Text) : Printed := repeated format (args.length + 1) args

end DebugAdapter.Shell.Format
