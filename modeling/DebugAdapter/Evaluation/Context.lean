/-! # Contexts

A context says whether an evaluation is done with. Copies of a context share one flag, which is
raised once and stays up. -/

namespace DebugAdapter.Evaluation

/-- Contexts by number. -/
structure Contexts where
  /-- The flag of each context. -/
  flags : List Nat := [0]
  /-- Whether each flag is up. -/
  raised : List Bool := [false]
  deriving DecidableEq, Repr

namespace Contexts

/-- A context with a flag of its own, and its number. -/
def new (c : Contexts) : Nat × Contexts :=
  (c.flags.length, ⟨c.flags ++ [c.raised.length], c.raised ++ [false]⟩)

/-- A copy of a context, and its number. -/
def clone (c : Contexts) (i : Nat) : Nat × Contexts :=
  (c.flags.length, { c with flags := c.flags ++ [c.flags.getD i 0] })

def cancel (c : Contexts) (i : Nat) : Contexts :=
  { c with raised := c.raised.set (c.flags.getD i 0) true }

def isDone (c : Contexts) (i : Nat) : Bool := c.raised.getD (c.flags.getD i 0) false

end Contexts

end DebugAdapter.Evaluation
