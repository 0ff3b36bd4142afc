/-!
# Doubles as numbers

What the bits of a double stand for, and the exact remainder of one double by another.

* `Binary64`: a sign with `significand * 2 ^ exponent`, an infinity, or no number.
* `Binary64.ofFloat` and `Binary64.toFloat` go between a double and what it stands for.
* `Binary64.remainder`: what is left once a whole number of divisors is taken away.  It is computed
  on whole numbers, so nothing is rounded, however far apart the two magnitudes are.
-/

namespace Chip8Console

inductive Binary64 where
  /-- `± significand * 2 ^ exponent`. -/
  | finite (negative : Bool) (significand : Nat) (exponent : Int)
  | infinite (negative : Bool)
  | nan

namespace Binary64

/-- The leading bit of a significand of fifty-three bits.  It is not stored; the exponent is, from its place
on. -/
def leadingBit : Nat := 0x10000000000000

/-- Reads the fields of a double: one sign bit, eleven bits of exponent, fifty-two of fraction. -/
def ofFloat (x : Float) : Binary64 :=
  let bits := x.toBits.toNat
  let negative := 0x8000000000000000 ≤ bits
  let biased : Nat := bits / leadingBit % 2048
  let fraction : Nat := bits % leadingBit
  if biased = 2047 then
    if fraction = 0 then .infinite negative else .nan
  else if biased = 0 then .finite negative fraction (-1074)
  else .finite negative (leadingBit + fraction) ((biased : Int) - 1075)

/-- The bits of `significand * 2 ^ exponent`, for a significand below `2 ^ 53` and an exponent of at
least `-1074`.  The significand is shifted up until it has its fifty-three bits or the exponent has
reached its lowest value. -/
def magnitudeBits (significand : Nat) (exponent : Int) : Nat :=
  let shift := min (52 - significand.log2) (exponent + 1074).toNat
  let shifted := significand <<< shift
  if shifted < leadingBit then shifted
  else (exponent - shift + 1075).toNat * leadingBit + (shifted - leadingBit)

/-- The sign as the topmost bit. -/
def signBit (negative : Bool) : Nat :=
  if negative then 0x8000000000000000 else 0

def toFloat : Binary64 → Float
  | .finite negative significand exponent =>
    Float.ofBits (UInt64.ofNat (signBit negative + magnitudeBits significand exponent))
  | .infinite negative => Float.ofBits (UInt64.ofNat (signBit negative + 0x7ff0000000000000))
  | .nan => Float.ofBits 0x7ff8000000000000

/-- What is left of `a` once a whole number of `b` is taken away, with the sign of `a`.  There is
no remainder of an infinity, nor by zero; an infinite divisor takes nothing away. -/
def remainder : Binary64 → Binary64 → Binary64
  | .finite negative m e, .finite _ n f =>
    if n = 0 then .nan
    else
      let low := min e f
      .finite negative ((m <<< (e - low).toNat) % (n <<< (f - low).toNat)) low
  | .finite negative m e, .infinite _ => .finite negative m e
  | .finite _ _ _, .nan => .nan
  | .infinite _, _ => .nan
  | .nan, _ => .nan

end Binary64

end Chip8Console
