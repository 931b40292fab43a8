/-! # Powers

A power of numbers is the one that they have by themselves, in definitions and in proofs. Libraries
know other ones that are equal to it, such as that of a monoid, and would have those found first. -/

namespace DebugAdapter

@[default_instance 20000]
instance (priority := high) ownPower {α : Type} [NatPow α] : Pow α Nat := instPowNat

end DebugAdapter
