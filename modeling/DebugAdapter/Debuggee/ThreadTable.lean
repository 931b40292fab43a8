import DebugAdapter.Order.Ascending

/-! # One value for each thread

A table with at most one value for each thread of the debuggee, in ascending order of the
threads. -/

namespace DebugAdapter.Debuggee

structure ThreadTable (α : Type) where
  entries : List (Int64 × α) := []
  deriving DecidableEq

namespace ThreadTable

variable {α : Type}

def get? (t : ThreadTable α) (thread : Int64) : Option α := t.entries.lookup thread

/-- A value for a thread, in place of the one it had, and that one. -/
def retain (t : ThreadTable α) (thread : Int64) (a : α) : Option α × ThreadTable α :=
  (t.get? thread, ⟨Ascending.insert thread a t.entries⟩)

/-- The table without the value of a thread, and that value. -/
def release (t : ThreadTable α) (thread : Int64) : Option α × ThreadTable α :=
  (t.get? thread, ⟨t.entries.filter (·.1 != thread)⟩)

/-- The threads with a value, in ascending order. -/
def threads (t : ThreadTable α) : List Int64 := t.entries.map (·.1)

def purge (_ : ThreadTable α) : ThreadTable α := {}

end ThreadTable

end DebugAdapter.Debuggee
