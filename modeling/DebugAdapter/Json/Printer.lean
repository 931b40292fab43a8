import DebugAdapter.Json.Value
import DebugAdapter.Number.Shortest
import DebugAdapter.Text.Decimal

/-! # Printing JSON

The compact form of a document: no space between tokens, members in their order, and in a
string only what has to be escaped. -/

namespace DebugAdapter.Json.Printer

/-! ## Numbers -/

/-- The powers of ten, of the first digit, that are written without an exponent. -/
def leastPositional : Int := -5

def greatestPositional : Int := 15

/-- A decimal with a point: `0.00123`, `12.3` or `1200.0`. -/
def positional (digits : Bytes) (power : Int) : Bytes :=
  if power < 0 then
    [0x30, 0x2E] ++ List.replicate (power.natAbs - 1) 0x30 ++ digits
  else
    let whole := power.natAbs + 1
    let fraction := digits.drop whole
    digits.take whole ++ List.replicate (whole - digits.length) 0x30 ++ [0x2E] ++
      (if fraction.isEmpty then [0x30] else fraction)

/-- A decimal with an exponent, which always has a sign: `1e+21`, `1.5e-7`. -/
def scientific (digits : Bytes) (power : Int) : Bytes :=
  digits.take 1 ++ (if digits.length ≤ 1 then [] else 0x2E :: digits.drop 1) ++
    [0x65, if power < 0 then 0x2D else 0x2B] ++ Decimal.encode power.natAbs

/-- The shortest text that reads back as a double. -/
def double (x : Binary64) : Bytes :=
  let d := Shortest.decimal x
  let digits := Decimal.encode d.digits
  let power := d.exponent + digits.length - 1
  let text :=
    if leastPositional ≤ power ∧ power ≤ greatestPositional then positional digits power
    else scientific digits power
  if x.negative then 0x2D :: text else text

def number : Number → Bytes
  | .integer n => Decimal.encodeInt n.val
  | .double x => double x

/-! ## Strings -/

/-- A digit in base sixteen. -/
def hexDigit (n : Nat) : UInt8 := if n < 10 then (0x30 + n).toUInt8 else (0x57 + n).toUInt8

/-- A character inside a string. Quotes, backslashes and controls are escaped, nothing else. -/
def character (c : Char) : Bytes :=
  let n := c.toNat
  if n = 0x22 then [0x5C, 0x22]
  else if n = 0x5C then [0x5C, 0x5C]
  else if n = 0x08 then [0x5C, 0x62]
  else if n = 0x0C then [0x5C, 0x66]
  else if n = 0x0A then [0x5C, 0x6E]
  else if n = 0x0D then [0x5C, 0x72]
  else if n = 0x09 then [0x5C, 0x74]
  else if n < 0x20 then [0x5C, 0x75, 0x30, 0x30, hexDigit (n / 16), hexDigit (n % 16)]
  else String.utf8EncodeChar c

def string (text : String) : Bytes := 0x22 :: (text.toList.flatMap character ++ [0x22])

/-! ## Values -/

def null : Bytes := [0x6E, 0x75, 0x6C, 0x6C]

def bool : Bool → Bytes
  | true => [0x74, 0x72, 0x75, 0x65]
  | false => [0x66, 0x61, 0x6C, 0x73, 0x65]

mutual

/-- The text of a document. -/
def value : Value → Bytes
  | .null => null
  | .bool b => bool b
  | .number n => number n
  | .string text => string text
  | .array [] => [0x5B, 0x5D]
  | .array (v :: rest) => 0x5B :: (value v ++ items rest)
  | .object [] => [0x7B, 0x7D]
  | .object ((k, v) :: rest) => 0x7B :: (string k ++ 0x3A :: (value v ++ members rest))
termination_by structural v => v

/-- The elements of an array after the first, and its end. -/
def items : List Value → Bytes
  | [] => [0x5D]
  | v :: rest => 0x2C :: (value v ++ items rest)
termination_by structural vs => vs

/-- The members of an object after the first, and its end. -/
def members : List (String × Value) → Bytes
  | [] => [0x7D]
  | (k, v) :: rest => 0x2C :: (string k ++ 0x3A :: (value v ++ members rest))
termination_by structural ms => ms

end

end DebugAdapter.Json.Printer
