import DebugAdapter.Number.Power

/-! # Double precision numbers

Finite doubles as a sign, a mantissa and a power of two. Every operation is a fraction of
natural numbers rounded once, a half to the even neighbour; `none` stands for a magnitude
beyond the largest double. -/

namespace DebugAdapter

/-- The double `mantissa * 2 ^ exponent`, or its negation. Rounding yields the form with the
largest mantissa below `2 ^ 53` and an exponent of at least `-1074`. -/
structure Binary64 where
  negative : Bool
  mantissa : Nat
  exponent : Int
  deriving DecidableEq, Repr

namespace Binary64

/-- The quotient of two natural numbers as a whole number, a half to the even neighbour. -/
def roundHalfEven (num den : Nat) : Nat :=
  let quotient := num / den
  let rest := num % den
  if 2 * rest > den || (2 * rest == den && quotient % 2 == 1) then quotient + 1 else quotient

/-- `num / den / 2 ^ exponent` as a fraction of natural numbers. -/
def scaled (num den : Nat) (exponent : Int) : Nat × Nat :=
  if exponent < 0 then (num * 2 ^ exponent.natAbs, den) else (num, den * 2 ^ exponent.natAbs)

/-- The least exponent for which the whole part of the scaled fraction is below `2 ^ 53`,
not below that of the smallest doubles. -/
def exponentOf (num den : Nat) : Int :=
  let guess : Int := (Nat.log2 num : Int) - Nat.log2 den - 53
  let (n, d) := scaled num den guess
  max (-1074) (if n / d < 2 ^ 53 then guess else guess + 1)

/-- The double nearest to a fraction. -/
def ofFraction (negative : Bool) (num den : Nat) : Option Binary64 :=
  if num = 0 then some ⟨negative, 0, -1074⟩
  else
    let exponent := exponentOf num den
    let (n, d) := scaled num den exponent
    let mantissa := roundHalfEven n d
    let (mantissa, exponent) :=
      if mantissa = 2 ^ 53 then (2 ^ 52, exponent + 1) else (mantissa, exponent)
    if exponent ≤ 971 then some ⟨negative, mantissa, exponent⟩ else none

def ofNat (n : Nat) : Option Binary64 := ofFraction false n 1

def isZero (x : Binary64) : Bool := x.mantissa == 0

def neg (x : Binary64) : Binary64 := { x with negative := !x.negative }

/-- The magnitude of a double as a fraction. -/
def fraction (x : Binary64) : Nat × Nat := scaled x.mantissa 1 (-x.exponent)

def mul (x y : Binary64) : Option Binary64 :=
  let (a, b) := x.fraction
  let (c, d) := y.fraction
  ofFraction (x.negative != y.negative) (a * c) (b * d)

/-- The quotient by a double that is not zero. -/
def div (x y : Binary64) : Option Binary64 :=
  let (a, b) := x.fraction
  let (c, d) := y.fraction
  ofFraction (x.negative != y.negative) (a * d) (b * c)

end Binary64

end DebugAdapter
