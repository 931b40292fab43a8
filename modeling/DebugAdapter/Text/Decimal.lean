import DebugAdapter.Text.Utf8

/-! # Decimal digits

Natural numbers as the bytes of their decimal digits, and back. -/

namespace DebugAdapter

namespace Decimal

/-- The digits of a number in base ten, without leading zeros. -/
def encode (n : Nat) : Bytes := (Nat.toDigits 10 n).map Char.toUInt8

/-- The digits of an integer after a minus sign if it is negative. -/
def encodeInt (n : Int) : Bytes :=
  if n < 0 then 0x2D :: encode n.natAbs else encode n.natAbs

def isDigit (b : UInt8) : Bool := 0x30 ≤ b && b ≤ 0x39

/-- What a digit stands for. -/
def digit (b : UInt8) : Nat := b.toNat - 0x30

/-- The number that some digits stand for, leading zeros allowed. -/
def value (digits : Bytes) : Nat := digits.foldl (fun n b => 10 * n + digit b) 0

end Decimal

end DebugAdapter
