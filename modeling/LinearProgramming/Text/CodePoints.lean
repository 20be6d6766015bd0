/-!
# Sets of code points

A property of characters holds for many code points, which lie in few ranges. The set of
them is a list of ranges, ascending and apart, so that a property has one list only.
-/

namespace LinearProgramming.Text

/-- Whether ranges, given by their first and last members, are not empty, ascend, and leave
a gap between each other. -/
def ascending : List (Nat × Nat) → Bool
  | [] => true
  | [range] => range.1 ≤ range.2
  | range :: next :: rest =>
    range.1 ≤ range.2 && range.2 + 1 < next.1 && ascending (next :: rest)

/-- A set of code points. -/
structure CodePoints where
  /-- The first and the last member of each range. -/
  ranges : List (Nat × Nat)
  ascends : ascending ranges = true := by decide +kernel

namespace CodePoints

instance : Membership Nat CodePoints where
  mem points n := ∃ range ∈ points.ranges, range.1 ≤ n ∧ n ≤ range.2

instance (n : Nat) (points : CodePoints) : Decidable (n ∈ points) :=
  inferInstanceAs (Decidable (∃ range ∈ points.ranges, range.1 ≤ n ∧ n ≤ range.2))

end CodePoints

end LinearProgramming.Text
