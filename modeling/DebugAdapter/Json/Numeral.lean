import DebugAdapter.Json.Value
import DebugAdapter.Json.Error
import DebugAdapter.Text.Decimal

/-! # Numerals

A JSON numeral is first scanned into its parts and then evaluated. Integers of 64 bits are
kept exactly. Any other numeral becomes a double: as many digits as 64 bits hold make an
integer, which is rounded once and then scaled by a power of ten, rounded again. -/

namespace DebugAdapter.Json

/-- The parts of a numeral as written. -/
structure Numeral where
  negative : Bool
  whole : Bytes
  fraction : Option Bytes
  exponent : Option (Bool × Bytes)
  deriving DecidableEq

namespace Numeral

/-! ## Scanning -/

/-- One digit or more. -/
def digits (atEnd : Error) (bytes : Bytes) : Except Error (Bytes × Bytes) :=
  match bytes with
  | [] => .error atEnd
  | b :: _ =>
    if Decimal.isDigit b then .ok (bytes.takeWhile Decimal.isDigit, bytes.dropWhile Decimal.isDigit)
    else .error .malformed

/-- The digits before the point: a zero stands alone. -/
def wholeDigits (atEnd : Error) (bytes : Bytes) : Except Error (Bytes × Bytes) := do
  let (whole, rest) ← digits atEnd bytes
  match whole with
  | 0x30 :: _ :: _ => .error .malformed
  | _ => .ok (whole, rest)

/-- A point and the digits after it, if there is a point. -/
def fractionDigits (atEnd : Error) (bytes : Bytes) : Except Error (Option Bytes × Bytes) :=
  match bytes with
  | 0x2E :: rest => do
    let (fraction, rest) ← digits atEnd rest
    .ok (some fraction, rest)
  | _ => .ok (none, bytes)

/-- A power of ten with an optional sign, if there is one. -/
def exponentDigits (atEnd : Error) (bytes : Bytes) :
    Except Error (Option (Bool × Bytes) × Bytes) :=
  match bytes with
  | [] => .ok (none, [])
  | b :: rest =>
    if b = 0x65 ∨ b = 0x45 then do
      let (negative, rest) := match rest with
        | 0x2B :: rest => (false, rest)
        | 0x2D :: rest => (true, rest)
        | _ => (false, rest)
      let (exponent, rest) ← digits atEnd rest
      .ok (some (negative, exponent), rest)
    else .ok (none, bytes)

/-- A numeral and the bytes after it. The error at the end of the input depends on whether the
numeral is kept or skipped. -/
def scan (atEnd : Error) (bytes : Bytes) : Except Error (Numeral × Bytes) := do
  let (negative, rest) := match bytes with
    | 0x2D :: rest => (true, rest)
    | _ => (false, bytes)
  let (whole, rest) ← wholeDigits atEnd rest
  let (fraction, rest) ← fractionDigits atEnd rest
  let (exponent, rest) ← exponentDigits atEnd rest
  .ok (⟨negative, whole, fraction, exponent⟩, rest)

/-! ## Evaluation -/

/-- A number extended by digits as long as 64 bits hold it, and the digits left over. -/
def absorb (n : Nat) : Bytes → Nat × Bytes
  | [] => (n, [])
  | b :: rest =>
    let next := 10 * n + Decimal.digit b
    if next < 2 ^ 64 then absorb next rest else (n, b :: rest)

/-- `x / 10 ^ 308`, so many times; zero stays zero. -/
def shrink (x : Binary64) : Nat → Option Binary64
  | 0 => some x
  | times + 1 =>
    if x.isZero then some x
    else do shrink (← x.div (← Binary64.ofNat (10 ^ 308))) times

/-- A double times a power of ten, `none` if that is too large. -/
def scale (x : Binary64) (power : Int) : Option Binary64 :=
  if power ≤ 308 ∧ 0 ≤ power then do x.mul (← Binary64.ofNat (10 ^ power.natAbs))
  else if x.isZero then some x
  else if 0 ≤ power then none
  else do
    let times := (power.natAbs - 1) / 308
    let x ← shrink x times
    if x.isZero then some x else x.div (← Binary64.ofNat (10 ^ (power.natAbs - 308 * times)))

/-- The power of ten that a numeral names. -/
def power (n : Numeral) : Int :=
  match n.exponent with
  | none => 0
  | some (negative, digits) =>
    if negative then -(Decimal.value digits : Int) else Decimal.value digits

/-- The double of a numeral. -/
def toDouble (n : Numeral) : Except Error Binary64 :=
  let (significand, dropped) := absorb 0 n.whole
  let fraction := n.fraction.getD []
  let (significand, unused) := absorb significand fraction
  let power := n.power + dropped.length - (fraction.length - unused.length)
  match (Binary64.ofNat significand).bind (scale · power) with
  | some x => .ok (if n.negative then x.neg else x)
  | none => .error .malformed

/-- The number of a numeral. A numeral that names an integer of 64 bits without a fraction or
an exponent is that integer, except for `-0`. -/
def toNumber (n : Numeral) : Except Error Number :=
  let magnitude : Int := Decimal.value n.whole
  let m : Int := if n.negative then -magnitude else magnitude
  if n.fraction.isSome ∨ n.exponent.isSome ∨ (n.negative ∧ magnitude = 0) then
    (toDouble n).map .double
  else if h : -2 ^ 63 ≤ m ∧ m < 2 ^ 64 then .ok (.integer ⟨m, h.1, h.2⟩)
  else (toDouble n).map .double

end Numeral

end DebugAdapter.Json
