/-! # Errors of a JSON document -/

namespace DebugAdapter.Json

/-- Why bytes are not the document that was asked for. -/
inductive Error where
  /-- The bytes break the grammar of JSON, or a number or a nesting is beyond its limit. -/
  | malformed
  /-- The bytes end inside a value. -/
  | truncated
  /-- The value is of another shape than the one asked for. -/
  | mismatched
  deriving DecidableEq, Repr

end DebugAdapter.Json
