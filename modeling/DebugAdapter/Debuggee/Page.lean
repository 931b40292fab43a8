/-! # Pages

A list is asked for in pages: from a place on, and at most so many items. -/

namespace DebugAdapter.Debuggee

/-- The items from `start` on, at most `count` of them. A negative start is the beginning, and
a count that is not positive means all the rest. -/
def page {α : Type} (start count : Option Int64) (items : List α) : List α :=
  let rest := items.drop (start.getD 0).toInt.toNat
  match count with
  | none => rest
  | some n => if 0 < n then rest.take n.toInt.toNat else rest

end DebugAdapter.Debuggee
