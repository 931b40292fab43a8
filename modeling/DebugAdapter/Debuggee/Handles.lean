/-! # Handles

What a client may ask for is handed out under small numbers. Handles are given out from one
upwards and are valid until all of them are dropped; then the numbers start again. -/

namespace DebugAdapter.Debuggee

/-- The values behind the handles of one generation, in the order in which they were added. -/
structure Handles (α : Type) where
  entries : Array α := #[]
  deriving DecidableEq

namespace Handles

variable {α : Type}

/-- A value under the next handle, and that handle. -/
def add (h : Handles α) (a : α) : Nat × Handles α :=
  (h.entries.size + 1, ⟨h.entries.push a⟩)

/-- The value behind a handle, if the handle was given out in this generation. -/
def get? (h : Handles α) (id : Int) : Option α :=
  if id < 1 then none else h.entries[(id - 1).toNat]?

/-- No handles: the next generation. -/
def purge (_ : Handles α) : Handles α := {}

/-- The number of valid handles. -/
def size (h : Handles α) : Nat := h.entries.size

end Handles

end DebugAdapter.Debuggee
