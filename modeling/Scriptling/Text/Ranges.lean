/-
This file keeps sets of characters as ranges of their numbers. The ranges of a
set ascend and neither meet nor touch, so the first one that does not end before
a number decides whether the number is in the set.
-/

namespace Scriptling

/-- The first and the last number of every stretch of a set. -/
abbrev Ranges := List (Nat × Nat)

namespace Ranges

/-- Whether ascending ranges cover a number. -/
def cover (ranges : Ranges) (number : Nat) : Bool :=
  match ranges.find? fun range => number ≤ range.2 with
  | some range => range.1 ≤ number
  | none => false

end Ranges

end Scriptling
