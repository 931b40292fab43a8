import DebugAdapter.Number.Binary64

/-! # Shortest decimals

The fewest decimal digits that read back as a given double. A double stands for the interval
of reals that round to it; of the decimal grids with 1, 2, ... 17 digits the first that has a
point in the interval wins, and of two such points the nearer. -/

namespace DebugAdapter.Shortest

/-- A decimal `digits * 10 ^ exponent`. -/
structure Decimal where
  digits : Nat
  exponent : Int
  deriving DecidableEq, Repr

/-- The reals that round to a double, over a common denominator: `value`, `low` and `high`
stand for `value / den`, and so on. `closed` says whether the ends belong to the interval. -/
structure Interval where
  low : Nat
  value : Nat
  high : Nat
  den : Nat
  closed : Bool
  deriving DecidableEq, Repr

/-- The interval of a double that is not zero. The gap below a power of two is half as wide,
the smallest powers apart. -/
def interval (x : Binary64) : Interval :=
  let narrow := x.mantissa == 2 ^ 52 && x.exponent > -1074
  -- in quarters of the last place
  let quarters := (4 * x.mantissa - (if narrow then 1 else 2), 4 * x.mantissa, 4 * x.mantissa + 2)
  let scale := fun n => Binary64.scaled n 4 (-x.exponent)
  ⟨(scale quarters.1).1, (scale quarters.2.1).1, (scale quarters.2.2).1, (scale 1).2,
    x.mantissa % 2 == 0⟩

/-- Whether `digits * 10 ^ exponent` lies in the interval. -/
def Interval.contains (i : Interval) (d : Decimal) : Bool :=
  let (n, m) := if d.exponent < 0 then (d.digits, 10 ^ d.exponent.natAbs)
    else (d.digits * 10 ^ d.exponent.natAbs, 1)
  let low := i.low * m
  let high := i.high * m
  let point := n * i.den
  if i.closed then low ≤ point && point ≤ high else low < point && point < high

/-- The number of digits before the decimal point of `num / den`, negative for leading zeros
after it: the exponent `e` with `10 ^ (e - 1) ≤ num / den < 10 ^ e`. -/
def magnitude (num den : Nat) : Int :=
  if den ≤ num then (Nat.toDigits 10 (num / den)).length
  else
    -- the digits of `den / num` lead to the exponent or to one below it
    let e : Int := 1 - (Nat.toDigits 10 (den / num)).length
    if num * 10 ^ (-e).natAbs < den then e else e + 1

/-- The points of the grid of step `10 ^ exponent` on both sides of the interval's value, the
nearer one first, the even one first on a tie. -/
def neighbours (i : Interval) (exponent : Int) : List Decimal :=
  let (n, d) := if exponent < 0 then (i.value * 10 ^ exponent.natAbs, i.den)
    else (i.value, i.den * 10 ^ exponent.natAbs)
  let below := n / d
  let nearest := Binary64.roundHalfEven n d
  if nearest = below then [⟨below, exponent⟩, ⟨below + 1, exponent⟩]
  else [⟨below + 1, exponent⟩, ⟨below, exponent⟩]

/-- A decimal without zeros at its end. -/
def trimZeros : Nat → Decimal → Decimal
  | 0, d => d
  | fuel + 1, d =>
    if d.digits ≠ 0 ∧ d.digits % 10 = 0 then trimZeros fuel ⟨d.digits / 10, d.exponent + 1⟩ else d

/-- The first point that lies in the interval, of grids with more and more digits. -/
def search (i : Interval) (exponent : Int) : Nat → Decimal
  | 0 => (neighbours i exponent).headD ⟨0, 0⟩
  | more + 1 =>
    match (neighbours i exponent).find? i.contains with
    | some d => d
    | none => search i (exponent - 1) more

/-- The shortest decimal that reads back as a double, its nearest one. -/
def decimal (x : Binary64) : Decimal :=
  if x.isZero then ⟨0, 0⟩
  else
    let i := interval x
    trimZeros 20 (search i (magnitude i.value i.den - 1) 17)

end DebugAdapter.Shortest
