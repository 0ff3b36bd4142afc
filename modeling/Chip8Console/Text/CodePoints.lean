/-!
# Sets of code points

Properties of characters are given as ascending lists of closed ranges of code points.  This
module holds the look-up; each table stands in the module named for its property.
-/

namespace Chip8Console.Text

/-- A set of code points, as closed ranges in ascending order. -/
abbrev CodePoints := List (Nat × Nat)

namespace CodePoints

/-- Membership.  The ranges ascend, so the search ends at the first range that lies above. -/
def holds (n : Nat) : CodePoints → Bool
  | [] => false
  | (low, high) :: rest => if n < low then false else n ≤ high || holds n rest

@[simp] theorem holds_nil (n : Nat) : holds n [] = false := rfl

end CodePoints

/-- Whether a character's code point is in a set. -/
def isIn (points : CodePoints) (c : Char) : Bool :=
  CodePoints.holds c.toNat points

end Chip8Console.Text
