import Chip8Console.Binary64

/-!
# The fewest digits that read back

A double stands for every real number that rounds to it.  Among those, `Decimal.shortest` picks a
decimal with as few digits as possible, and of the decimals with that many digits the one nearest
to the double itself.

All of it is computed on whole numbers: a double, and each midpoint between two doubles, is a whole
multiple of `10 ^ -1076`, so values are counted in that unit.
-/

namespace Chip8Console

/-- The number `coefficient * 10 ^ exponent`. -/
structure Decimal where
  coefficient : Nat
  exponent : Int

namespace Decimal

inductive Tie where
  /-- The larger one. -/
  | up
  /-- The one whose last digit is even. -/
  | even

/-- Ten to a power. -/
def tenTo (n : Nat) : Nat :=
  Nat.pow 10 n

/-- `significand * 2 ^ exponent` counted in units of `10 ^ -1076`.  Down to an exponent of `-1076` it is a whole
number of them. -/
def units (significand : Nat) (exponent : Int) : Nat :=
  (significand * tenTo 1076) <<< exponent.toNat >>> (-exponent).toNat

/-- The numbers that round to one double, in units of `10 ^ -1076`. -/
structure Interval where
  value : Nat
  low : Nat
  high : Nat
  /-- The two ends round to the double as well. -/
  closed : Bool

namespace Interval

/-- The numbers that round to `significand * 2 ^ exponent`.  They reach half way to each neighbour;
the neighbour below a power of two is only half as far away.  A midpoint rounds to the neighbour with
the even significand. -/
def around (significand : Nat) (exponent : Int) : Interval :=
  let below := if significand = Binary64.leadingBit ∧ -1074 < exponent then 1 else 2
  { value := units (4 * significand) (exponent - 2)
    low := units (4 * significand - below) (exponent - 2)
    high := units (4 * significand + 2) (exponent - 2)
    closed := significand % 2 = 0 }

def holds (i : Interval) (n : Nat) : Bool :=
  if i.closed then i.low ≤ n && n ≤ i.high else i.low < n && n < i.high

/-- The multiple of `grid` that rounds to the double, if one of the two next to it does; of two, the
nearer. -/
def nearest (i : Interval) (tie : Tie) (grid : Nat) : Option Nat :=
  let below := i.value / grid
  let above := below + 1
  match i.holds (below * grid), i.holds (above * grid) with
  | true, false => some below
  | false, true => some above
  | false, false => none
  | true, true =>
    let down := i.value - below * grid
    let up := above * grid - i.value
    if down < up then some below
    else if up < down then some above
    else match tie with
      | .up => some above
      | .even => if below % 2 = 0 then some below else some above

theorem holds_of_nearest {i : Interval} {tie : Tie} {grid n : Nat}
    (h : i.nearest tie grid = some n) : i.holds (n * grid) = true := by
  unfold nearest at h
  grind

end Interval

/-- The fewest digits that read back as `significand * 2 ^ exponent`.  Grids of one to seventeen
digits are tried in turn; seventeen always suffice. -/
def shortest (tie : Tie) (significand : Nat) (exponent : Int) : Decimal :=
  let interval := Interval.around significand exponent
  let length := (Nat.toDigits 10 interval.value).length
  let found := (List.range 17).findSome? fun n =>
    let zeros := length - 1 - n
    (interval.nearest tie (tenTo zeros)).map fun coefficient =>
      { coefficient, exponent := zeros - 1076 : Decimal }
  found.getD { coefficient := interval.value, exponent := -1076 }

end Decimal

end Chip8Console
