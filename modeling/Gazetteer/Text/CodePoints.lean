/-!
# Sets of code points

A property of characters is given by the ranges of code points that have it. The ranges, like all
tables of characters here, are data of Unicode 17.0; this file only says how they are read.
-/

set_option autoImplicit false

namespace Gazetteer.Text

/-- A set of code points, as ranges `(first, last)` with both ends included. -/
abbrev CodePoints := List (Nat × Nat)

def CodePoints.has (ranges : CodePoints) (c : Char) : Bool :=
  ranges.any fun (first, last) => first ≤ c.toNat && c.toNat ≤ last

theorem CodePoints.has_iff (ranges : CodePoints) (c : Char) :
    ranges.has c = true ↔ ∃ r ∈ ranges, r.1 ≤ c.toNat ∧ c.toNat ≤ r.2 := by
  simp [CodePoints.has]

end Gazetteer.Text
