import Chip8Console.Proofs.Doubles.Rounding
import Chip8Console.Proofs.Doubles.Unpacked

/-! # Doubles from digits and a power of ten

Digits and a power of ten are made into a double in one of two ways.  If both are doubles themselves, they are multiplied
or divided as doubles (`Exactly`); if not, what is rounded is their exact product or a quotient with enough places.
Either way there is one rounding, so that digits which make a number around a double give that double
(`ofScientific_eq`).
-/

namespace Chip8Console.Doubles

open Float.Model (UnpackedFloat Format.binary64 totalExponent)
open Float.Model.UnpackedFloat
open Binary64 (leadingBit)

theorem canonical_of_ofFloat {x : Float} {negative : Bool} {m : ℕ} {e : ℤ}
    (finite : Binary64.ofFloat x = .finite negative m e) : Canonical m e := by
  unfold Binary64.ofFloat at finite
  simp only at finite
  split at finite
  · split at finite <;> cases finite
  · have fraction : x.toBits.toNat % leadingBit < leadingBit := Nat.mod_lt _ (by decide)
    have lead : leadingBit = 2 ^ 52 := rfl
    split at finite
    · cases finite
      exact ⟨by omega, Int.le_refl _, .inr rfl⟩
    · cases finite
      exact ⟨by omega, by omega, .inl (by omega)⟩

theorem exponent_le_of_ofFloat {x : Float} {negative : Bool} {m : ℕ} {e : ℤ}
    (finite : Binary64.ofFloat x = .finite negative m e) : e ≤ 971 := by
  unfold Binary64.ofFloat at finite
  simp only at finite
  split at finite
  · split at finite <;> cases finite
  · split at finite
    · cases finite
      omega
    · cases finite
      omega

theorem pack_unpack (x : Float.Model) : Float.Model.pack x.unpack = x := by
  obtain ⟨bits, valid⟩ := x
  have same := pack_unpack_of_valid valid
  exact (Float.Model.mk.injEq ..).mpr (UInt64.eq_of_toBitVec_eq same)

theorem unpack_pack {m : ℕ} {e : ℤ} (sign : Sign) (large : 2 ^ 52 ≤ m) (small : m < 2 ^ 53) (least : -1074 ≤ e)
    (most : e ≤ 971) (positive : 0 < m) :
    (Float.Model.pack (.finite sign m e positive)).unpack = .finite sign m e positive := by
  have bits : m.log2 + 1 = 53 := by
    have := (Nat.log2_lt positive.ne').mpr small
    have := (Nat.le_log2 positive.ne').mpr large
    omega
  have biased : (e + 1023 + 52).toNat < 2047 ∧ 0 < (e + 1023 + 52).toNat := by omega
  change UnpackedFloat.unpack Format.binary64 (UnpackedFloat.pack Format.binary64 _) = _
  have packed : UnpackedFloat.pack Format.binary64 (.finite sign m e positive) =
      packComponents Format.binary64 sign (.ofNat 11 (e + 1023 + 52).toNat) (.ofNat 52 m) := by
    have room : ¬2 ^ 11 ≤ (e + 1023 + 52).toNat + 1 := by omega
    change (if 2 ^ 11 ≤ (e + 1023 + 52).toNat + 1 then _ else if m.log2 + 1 = 53 then _ else _) = _
    rw [if_neg room, if_pos bits]
    rfl
  have exponent : (BitVec.ofNat 11 (e + 1023 + 52).toNat).toNat = (e + 1023 + 52).toNat := by
    rw [BitVec.toNat_ofNat]
    omega
  have mantissa : (1#1 ++ BitVec.ofNat 52 m).toNat = m := by
    rw [Binary64.append_leadingBit, BitVec.toNat_ofNat]
    have lead : leadingBit = 2 ^ 52 := rfl
    omega
  have notOnes : BitVec.ofNat 11 (e + 1023 + 52).toNat ≠ -1#11 := by
    rw [ne_eq, ← BitVec.toNat_inj, exponent]
    change ¬(e + 1023 + 52).toNat = 2047
    omega
  have notZero : BitVec.ofNat 11 (e + 1023 + 52).toNat ≠ 0#11 := by
    rw [ne_eq, ← BitVec.toNat_inj, exponent]
    change ¬(e + 1023 + 52).toNat = 0
    omega
  rw [packed, UnpackedFloat.unpack]
  simp only [unpackExponent_packComponents, unpackMantissa_packComponents, unpackSign_packComponents, notOnes, notZero,
    ↓reduceIte, exponent, mantissa, Sign.ofBitVec_toBitVec]
  congr 1
  change ((e + 1023 + 52).toNat : ℤ) - (1023 + 52) = e
  omega

theorem around_self (m : ℕ) (e : ℤ) : Around m e (m * 2 ^ e) := by
  have unit : (0 : ℚ) < 2 ^ e := by positivity
  refine ⟨mul_le_mul_of_nonneg_right ?_ unit.le, mul_le_mul_of_nonneg_right (by linarith) unit.le, fun _ =>
    ⟨mul_lt_mul_of_pos_right (by linarith) unit, mul_lt_mul_of_pos_right (by linarith) unit⟩⟩
  split <;> linarith

/-! ## Exact operands -/

/-- This double is that number, and uses all bits of its mantissa. -/
def Exactly (x : Float) (v : ℚ) : Prop :=
  ∃ m e positive, x.toModel.unpack = .finite .positive m e positive ∧ (m : ℚ) * 2 ^ e = v ∧ 2 ^ 52 ≤ m

/-- A number of at most fifty-three bits, moved up so that it has that many. -/
theorem shifted_bounds {n : ℕ} (some : 0 < n) (small : n < 2 ^ 53) :
    2 ^ 52 ≤ n <<< (52 - n.log2) ∧ n <<< (52 - n.log2) < 2 ^ 53 := by
  have bits : n.log2 ≤ 52 := Nat.lt_succ_iff.mp ((Nat.log2_lt some.ne').mpr small)
  rw [Nat.shiftLeft_eq]
  constructor
  · calc 2 ^ 52 = 2 ^ n.log2 * 2 ^ (52 - n.log2) := by rw [← Nat.pow_add]; congr 1; omega
      _ ≤ n * 2 ^ (52 - n.log2) := Nat.mul_le_mul_right _ (Nat.log2_self_le some.ne')
  · calc n * 2 ^ (52 - n.log2) < 2 ^ (n.log2 + 1) * 2 ^ (52 - n.log2) :=
          Nat.mul_lt_mul_of_pos_right Nat.lt_log2_self (Nat.two_pow_pos _)
      _ = 2 ^ 53 := by rw [← Nat.pow_add]; congr 1; omega

/-- Whole numbers of at most fifty-three bits are doubles. -/
theorem ofNat_eq {n : ℕ} (some : 0 < n) (small : n < 2 ^ 53) :
    ∃ m e positive, UnpackedFloat.ofNat Format.binary64 n = .finite .positive m e positive ∧ (m : ℚ) * 2 ^ e = n ∧
      2 ^ 52 ≤ m ∧ m < 2 ^ 53 ∧ -52 ≤ e ∧ e ≤ 0 := by
  have bits : n.log2 ≤ 52 := Nat.lt_succ_iff.mp ((Nat.log2_lt some.ne').mpr small)
  obtain ⟨large, fits⟩ := shifted_bounds some small
  have positive : 0 < n <<< (52 - n.log2) := by omega
  have value : ((n <<< (52 - n.log2) : ℕ) : ℚ) * 2 ^ (-(52 - n.log2 : ℕ) : ℤ) = n := by
    rw [Nat.shiftLeft_eq, zpow_neg, zpow_natCast]
    push_cast
    field_simp
  have canonical : Canonical (n <<< (52 - n.log2)) (-(52 - n.log2 : ℕ)) := ⟨fits, by omega, .inl large⟩
  refine ⟨_, _, positive, ?_, value, large, fits, by omega, by omega⟩
  have target : Format.binary64.targetExponent (totalExponent n 0) = -(52 - n.log2 : ℕ) := by
    rw [targetExponent_eq, totalExponent]
    omega
  have least : (2 : ℚ) ^ (n.log2 : ℤ) ≤ n := by
    rw [zpow_natCast]
    exact_mod_cast Nat.log2_self_le some.ne'
  have most : (n : ℚ) < 2 ^ (n.log2 + 1 : ℤ) := by
    have : (n : ℚ) < (2 ^ (n.log2 + 1) : ℕ) := by exact_mod_cast Nat.lt_log2_self
    rwa [Nat.cast_pow, Nat.cast_ofNat, ← zpow_natCast] at this
  have around : Around (n <<< (52 - n.log2)) (-(52 - n.log2 : ℕ)) n := value ▸ around_self _ _
  have rounded := roundWithAccuracy_eq canonical positive around (represents_exact _) value.symm least most (by omega)
    .positive
  have shift : (0 - (-(52 - n.log2 : ℕ) : ℤ)).toNat = 52 - n.log2 := by omega
  have place : (0 : ℤ) - (52 - n.log2 : ℕ) = -(52 - n.log2 : ℕ) := by omega
  have above : compare (n : ℤ) 0 = .gt := Int.compare_eq_gt.mpr (by exact_mod_cast some)
  rw [← rounded]
  change UnpackedFloat.normalize Format.binary64 (n : ℤ) 0 .positive = _
  unfold UnpackedFloat.normalize
  rw [above]
  simp only [UnpackedFloat.round, Int.toNat_natCast, target, decreaseExponent, shift, place]

theorem exactly_toFloat {n : ℕ} (some : 0 < n) (small : n < 2 ^ 53) : Exactly n.toUInt64.toFloat n := by
  obtain ⟨m, e, positive, made, value, large, fits, least, most⟩ := ofNat_eq some small
  have whole : n.toUInt64.toNat = n := by
    rw [Nat.toUInt64_eq, UInt64.toNat_ofNat']
    omega
  refine ⟨m, e, positive, ?_, value, large⟩
  change (Float.Model.pack (UnpackedFloat.ofNat Format.binary64 n.toUInt64.toNat)).unpack = _
  rw [whole, made]
  exact unpack_pack .positive large fits (by omega) (by omega) positive

/-- The mantissa of a power of ten that is a double. -/
def powerMantissa (n : ℕ) : ℕ :=
  10 ^ n * 2 ^ 52 / 2 ^ (10 ^ n).log2

/-- The exponent of a power of ten that is a double. -/
def powerExponent (n : ℕ) : ℤ :=
  (10 ^ n).log2 - 52

theorem unpack_powerOfTen (n : Fin 23) : ∃ positive,
    (Float.exactlyRepresentablePowersOfTen[n.val]).toModel.unpack =
      .finite .positive (powerMantissa n) (powerExponent n) positive := by
  fin_cases n <;> exact ⟨by decide, rfl⟩

theorem powerMantissa_eq (n : Fin 23) :
    powerMantissa n * 2 ^ (10 ^ n.val).log2 = 10 ^ n.val * 2 ^ 52 ∧ 2 ^ 52 ≤ powerMantissa n := by
  revert n
  decide +kernel

theorem exactly_powerOfTen {n : ℕ} (few : n < 23) :
    Exactly (Float.exactlyRepresentablePowersOfTen[n]) (10 ^ n) := by
  obtain ⟨positive, unpacked⟩ := unpack_powerOfTen ⟨n, few⟩
  obtain ⟨value, large⟩ := powerMantissa_eq ⟨n, few⟩
  refine ⟨_, _, positive, unpacked, ?_, large⟩
  have value' : ((powerMantissa n * 2 ^ (10 ^ n).log2 : ℕ) : ℚ) = (10 ^ n * 2 ^ 52 : ℕ) := by exact_mod_cast value
  push_cast at value'
  have unit : (2 : ℚ) ^ powerExponent n = 2 ^ (10 ^ n).log2 / 2 ^ 52 := by
    rw [powerExponent, zpow_sub₀ (by norm_num), zpow_natCast]
    norm_num
  rw [unit, ← mul_div_assoc, value']
  norm_num

/-! ## Digits and a power of ten -/

section Target

variable {x : Float} {m : ℕ} {e : ℤ} {positive : 0 < m}

theorem eq_of_pack (unpacked : x.toModel.unpack = .finite .positive m e positive) {y : Float}
    (made : y.toModel = Float.Model.pack (.finite .positive m e positive)) : y = x := by
  rw [← unpacked, pack_unpack] at made
  cases x
  cases y
  cases made
  rfl

theorem canonical_of_unpack (unpacked : x.toModel.unpack = .finite .positive m e positive) : Canonical m e := by
  have finite := Binary64.ofFloat_eq x
  rw [unpacked] at finite
  exact canonical_of_ofFloat finite

theorem div_eq_of_exactly (unpacked : x.toModel.unpack = .finite .positive m e positive) {y z : Float} {v w : ℚ}
    (dividend : Exactly y v) (divisor : Exactly z w) (around : Around m e (v / w)) : y / z = x := by
  obtain ⟨a, f, positiveA, unpackedA, rfl, -⟩ := dividend
  obtain ⟨b, g, positiveB, unpackedB, rfl, -⟩ := divisor
  refine eq_of_pack unpacked ?_
  change Float.Model.pack (UnpackedFloat.div Format.binary64 y.toModel.unpack z.toModel.unpack) = _
  rw [unpackedA, unpackedB, div_eq (canonical_of_unpack unpacked) positive positiveA positiveB around]

theorem mul_eq_of_exactly (unpacked : x.toModel.unpack = .finite .positive m e positive) {y z : Float} {v w : ℚ}
    (left : Exactly y v) (right : Exactly z w) (around : Around m e (v * w)) : y * z = x := by
  obtain ⟨a, f, positiveA, unpackedA, rfl, largeA⟩ := left
  obtain ⟨b, g, positiveB, unpackedB, rfl, largeB⟩ := right
  refine eq_of_pack unpacked ?_
  change Float.Model.pack (UnpackedFloat.mul Format.binary64 y.toModel.unpack z.toModel.unpack) = _
  have product : (a : ℚ) * 2 ^ f * (b * 2 ^ g) = a * b * 2 ^ (f + g) := by
    rw [zpow_add₀ (by norm_num)]
    ring
  rw [product] at around
  -- Both mantissas are full, so their product has more bits than any double, and no place of it is missing.
  have large : (2 : ℚ) ^ (104 + (f + g) : ℤ) ≤ a * b * 2 ^ (f + g) := by
    have both : ((2 ^ 52 * 2 ^ 52 : ℕ) : ℚ) ≤ (a * b : ℕ) := by exact_mod_cast Nat.mul_le_mul largeA largeB
    rw [zpow_add₀ (by norm_num)]
    refine mul_le_mul_of_nonneg_right ?_ (by positivity)
    push_cast at both
    exact le_trans (by norm_num) both
  rw [unpackedA, unpackedB,
    mul_eq (canonical_of_unpack unpacked) positive positiveA positiveB around large (by omega)]

theorem unpacked_ofScientific_eq (canonical : Canonical m e) (positive : 0 < m) {n : ℕ} {k : ℤ} (some : 0 < n)
    (around : Around m e (n * 10 ^ k)) (least : -(2048 + n.log2) ≤ k) (most : k ≤ 2048) :
    UnpackedFloat.ofScientific Format.binary64 n k = .finite .positive m e positive := by
  have notAbove : ¬k > 2 ^ 11 := by omega
  have notBelow : ¬k < -(2 ^ 11 + n.log2) := by omega
  have digits : (1 : ℚ) ≤ n := by exact_mod_cast some
  simp only [UnpackedFloat.ofScientific, some.ne', ↓reduceDIte, notAbove, notBelow, ↓reduceIte]
  by_cases whole : 0 ≤ k
  · simp only [whole, ↓reduceIte]
    have power : (10 : ℚ) ^ k = 10 ^ k.toNat := by
      rw [← zpow_natCast, Int.toNat_of_nonneg whole]
    have one : (1 : ℚ) ≤ 10 ^ k.toNat := one_le_pow₀ (by norm_num)
    have value : ((n <<< 53 : ℕ) * (10 ^ k.toNat : ℕ) : ℚ) * 2 ^ (-53 + 0 : ℤ) = n * 10 ^ k := by
      rw [Nat.shiftLeft_eq, power]
      push_cast
      norm_num
      ring
    have large : (2 : ℚ) ^ (0 : ℤ) ≤ ((n <<< 53 : ℕ) * (10 ^ k.toNat : ℕ) : ℚ) * 2 ^ (-53 + 0 : ℤ) := by
      rw [value, power]
      nlinarith
    have fine : (-53 + 0 : ℤ) ≤ max (0 - 52) (-1074) := by decide
    have shifted : 0 < n <<< 53 := by
      rw [Nat.shiftLeft_eq]
      positivity
    -- The digits are moved up by as many bits as a double has, so that none are missing in the product.
    rw [← value] at around
    exact mul_eq canonical positive shifted (by positivity) around large fine
  · simp only [whole, ↓reduceIte]
    have value : (n : ℚ) * 2 ^ (0 : ℤ) / ((10 ^ (-k).toNat : ℕ) * 2 ^ (0 : ℤ)) = n * 10 ^ k := by
      have power : (10 : ℚ) ^ k = (10 ^ (-k).toNat)⁻¹ := by
        rw [← zpow_natCast, ← zpow_neg, Int.toNat_of_nonneg (by omega), neg_neg]
      rw [power]
      push_cast
      simp [div_eq_mul_inv]
    rw [← value] at around
    exact div_eq canonical positive some (by positivity) around

/-- Digits that make a number around a double are read as that double. -/
theorem ofScientific_eq (unpacked : x.toModel.unpack = .finite .positive m e positive) {n : ℕ} {k : ℤ} (some : 0 < n)
    (around : Around m e (n * 10 ^ k)) (least : -(2048 + n.log2) ≤ k) (most : k ≤ 2048) :
    Float.ofScientific n (k < 0) k.natAbs = x := by
  unfold Float.ofScientific
  split
  · next small =>
    obtain ⟨small, few⟩ := small
    have digits := exactly_toFloat some small
    have power := exactly_powerOfTen (Nat.lt_succ_of_le few)
    by_cases below : k < 0
    · simp only [below, decide_true, ↓reduceIte]
      have value : (n : ℚ) / 10 ^ k.natAbs = n * 10 ^ k := by
        have same : k = -(k.natAbs : ℤ) := by omega
        conv_rhs => rw [same, zpow_neg, zpow_natCast]
        rw [div_eq_mul_inv]
      exact div_eq_of_exactly unpacked digits power (value ▸ around)
    · simp only [below, decide_false, Bool.false_eq_true, ↓reduceIte]
      have value : (n : ℚ) * 10 ^ k.natAbs = n * 10 ^ k := by
        have same : k = (k.natAbs : ℤ) := by omega
        conv_rhs => rw [same, zpow_natCast]
      exact mul_eq_of_exactly unpacked digits power (value ▸ around)
  · refine eq_of_pack unpacked ?_
    have signed : (if decide (k < 0) = true then Int.negOfNat k.natAbs else Int.ofNat k.natAbs) = k := by
      split
      · next below =>
        have := of_decide_eq_true below
        rw [Int.negOfNat_eq, Int.ofNat_eq_natCast]
        omega
      · next below =>
        have := of_decide_eq_false (Bool.eq_false_iff.mpr below)
        rw [Int.ofNat_eq_natCast]
        omega
    simp only [signed]
    exact congrArg Float.Model.pack
      (unpacked_ofScientific_eq (canonical_of_unpack unpacked) positive some around least most)

end Target

end Chip8Console.Doubles
