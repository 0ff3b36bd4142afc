import Chip8Console.Binary64
import Mathlib

/-! # Doubles and their parts

Doubles come with a model of their own, in which their bits are unpacked into a sign, a mantissa and an exponent.  What
`Binary64.ofFloat` reads off the bits is the same (`Binary64.ofFloat_eq`).
-/

namespace Chip8Console.Binary64

open Float.Model (UnpackedFloat Format.binary64)
open Float.Model.UnpackedFloat

/-- An unpacked double as a number. -/
def ofUnpacked : UnpackedFloat → Binary64
  | .notANumber => .nan
  | .infinity sign => .infinite (sign == .negative)
  | .zero sign => .finite (sign == .negative) 0 (-1074)
  | .finite sign mantissa exponent _ => .finite (sign == .negative) mantissa exponent

theorem append_leadingBit (fraction : BitVec 52) : (1#1 ++ fraction).toNat = leadingBit + fraction.toNat := by
  rw [BitVec.toNat_append, ← Nat.shiftLeft_add_eq_or_of_lt fraction.isLt]
  rfl

section Bits

variable (x : Float)

theorem toNat_unpackExponent :
    (@unpackExponent Format.binary64 x.toBits.toBitVec).toNat = x.toBits.toNat / leadingBit % 2048 := by
  rw [unpackExponent_def, BitVec.extractLsb'_toNat, Nat.shiftRight_eq_div_pow]
  rfl

theorem toNat_unpackMantissa :
    (@unpackMantissa Format.binary64 x.toBits.toBitVec).toNat = x.toBits.toNat % leadingBit := by
  rw [unpackMantissa_def, BitVec.extractLsb'_toNat, Nat.shiftRight_eq_div_pow]
  simp [leadingBit]

theorem unpackSign_eq_zero_iff :
    @unpackSign Format.binary64 x.toBits.toBitVec = 0#1 ↔ ¬0x8000000000000000 ≤ x.toBits.toNat := by
  have topmost : (@unpackSign Format.binary64 x.toBits.toBitVec).toNat = x.toBits.toNat / 2 ^ 63 % 2 := by
    rw [unpackSign_def, BitVec.extractLsb'_toNat, Nat.shiftRight_eq_div_pow]
    rfl
  have bound : x.toBits.toNat < 2 ^ 64 := x.toBits.toNat_lt
  rw [← BitVec.toNat_inj, topmost, BitVec.toNat_zero]
  omega

theorem isNegative_unpackSign :
    (Sign.ofBitVec (@unpackSign Format.binary64 x.toBits.toBitVec) == .negative) =
      decide (0x8000000000000000 ≤ x.toBits.toNat) := by
  have zero := unpackSign_eq_zero_iff x
  by_cases set : 0x8000000000000000 ≤ x.toBits.toNat
  · simp only [Sign.ofBitVec, zero, set]
    rfl
  · simp only [Sign.ofBitVec, zero, set]
    rfl

end Bits

theorem ofFloat_eq (x : Float) : ofFloat x = ofUnpacked x.toModel.unpack := by
  have exponent := toNat_unpackExponent x
  have fraction := toNat_unpackMantissa x
  have sign := isNegative_unpackSign x
  have ones : (-1#11).toNat = 2047 := rfl
  have none : (0#11).toNat = 0 ∧ (0#52).toNat = 0 := ⟨rfl, rfl⟩
  have bias : (Format.binary64.exponentBias : Int) = 1023 := rfl
  change _ = ofUnpacked (UnpackedFloat.unpack Format.binary64 x.toBits.toBitVec)
  unfold ofFloat UnpackedFloat.unpack
  simp only [← BitVec.toNat_inj, exponent, fraction, ones, none]
  -- The exponent is all ones, all zeros, or neither; then it matters whether the fraction is empty.
  by_cases full : x.toBits.toNat / leadingBit % 2048 = 2047
  · by_cases empty : x.toBits.toNat % leadingBit = 0
    · simp [full, empty, ofUnpacked, sign]
    · simp [full, empty, ofUnpacked]
  · by_cases low : x.toBits.toNat / leadingBit % 2048 = 0
    · by_cases empty : x.toBits.toNat % leadingBit = 0
      · simp [low, empty, ofUnpacked, sign]
      · simp [low, empty, ofUnpacked, sign, bias]
    · simp only [full, low, ↓reduceIte, ofUnpacked, sign, append_leadingBit, fraction, bias]
      rfl

theorem le_iff (x y : Float) : x ≤ y ↔ x.toModel.unpack.le y.toModel.unpack = true :=
  ⟨fun le => of_decide_eq_true le, fun le => decide_eq_true le⟩

end Chip8Console.Binary64
