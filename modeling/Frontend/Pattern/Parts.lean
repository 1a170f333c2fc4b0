namespace Frontend.Pattern

/-!
# Heights

The height of an expression is the number of levels on which others stand inside it.

* `Parts` — several expressions side by side, and `Parts.height` the height of the whole.
-/

/-- Expressions side by side. -/
structure Parts where
  count : Nat := 0
  /-- The height of the highest of them. -/
  highest : Nat := 0
  deriving DecidableEq

namespace Parts

/-- One more part. -/
def add (parts : Parts) (height : Nat) : Parts :=
  { count := parts.count + 1, highest := max parts.highest height }

/-- The height of the whole.  A single part is the whole; several need a level of their own. -/
def height (parts : Parts) : Nat :=
  if parts.count ≤ 1 then parts.highest else parts.highest + 1

end Parts

end Frontend.Pattern
