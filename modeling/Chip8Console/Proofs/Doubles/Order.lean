import Chip8Console.Proofs.Doubles.Scientific

/-! # Doubles in order

Positive doubles are compared by their exponents first and by their mantissas then, and this is the order of the numbers
that they stand for (`le_unpacked_iff`).  Rounding keeps to that order: a number that is not above a double is not rounded
to one above it, nor below it to one below (`Around.le`, `Around.ge`).  Every number in range is rounded to some double
(`exists_around`); a quotient between two doubles is rounded to one between them (`exists_quotient`).
-/

namespace Chip8Console.Doubles

open Float.Model (UnpackedFloat Format.binary64)
open Float.Model.UnpackedFloat

section Comparing

variable {m k : ℕ} {e f : ℤ}

/-! ## Exponents before mantissas -/

theorem Canonical.mul_le_of_exponent_lt (first : Canonical m e) (above : e < f) :
    (m : ℚ) * 2 ^ e ≤ (2 ^ 52 - 1 / 2) * 2 ^ f := by
  have unit : (0 : ℚ) < 2 ^ f := by positivity
  have small : ((m + 1 : ℕ) : ℚ) ≤ (2 ^ 53 : ℕ) := by exact_mod_cast first.small
  push_cast at small
  have half : (2 : ℚ) ^ e ≤ 2 ^ (f - 1) := zpow_le_zpow_right₀ (by norm_num) (by omega)
  rw [zpow_sub_one₀ (by norm_num)] at half
  calc (m : ℚ) * 2 ^ e ≤ (2 ^ 53 - 1) * 2 ^ e := mul_le_mul_of_nonneg_right (by linarith) (by positivity)
    _ ≤ (2 ^ 53 - 1) * (2 ^ f * 2⁻¹) := mul_le_mul_of_nonneg_left half (by norm_num)
    _ = (2 ^ 52 - 1 / 2) * 2 ^ f := by ring

theorem Canonical.large (second : Canonical k f) (first : Canonical m e) (above : e < f) : (2 : ℚ) ^ 52 ≤ k := by
  have least := first.least
  have full : 2 ^ 52 ≤ k := second.full.resolve_right (by omega)
  exact_mod_cast full

/-- A double is smaller than another one if its exponent is, and of two with the same exponent if its mantissa is. -/
theorem Canonical.lt_iff (first : Canonical m e) (second : Canonical k f) :
    (m : ℚ) * 2 ^ e < k * 2 ^ f ↔ e < f ∨ e = f ∧ m < k := by
  have less {m k : ℕ} {e f : ℤ} (first : Canonical m e) (second : Canonical k f) (above : e < f) :
      (m : ℚ) * 2 ^ e < k * 2 ^ f := by
    have unit : (0 : ℚ) < 2 ^ f := by positivity
    have large := second.large first above
    calc (m : ℚ) * 2 ^ e ≤ (2 ^ 52 - 1 / 2) * 2 ^ f := first.mul_le_of_exponent_lt above
      _ < k * 2 ^ f := mul_lt_mul_of_pos_right (by linarith) unit
  rcases lt_trichotomy e f with above | rfl | below
  · exact iff_of_true (less first second above) (.inl above)
  · have unit : (0 : ℚ) < 2 ^ e := by positivity
    rw [mul_lt_mul_iff_left₀ unit, Nat.cast_lt]
    simp
  · refine iff_of_false (less second first below).not_gt ?_
    omega

/-! ## Rounding keeps the order -/

/-- A larger double is beyond what is rounded to a double. -/
theorem Canonical.half_above (first : Canonical m e) (second : Canonical k f) (less : (m : ℚ) * 2 ^ e < k * 2 ^ f) :
    (m + 1 / 2 : ℚ) * 2 ^ e < k * 2 ^ f := by
  have unit : (0 : ℚ) < 2 ^ e := by positivity
  rcases (first.lt_iff second).mp less with above | ⟨rfl, more⟩
  · have small : ((m + 1 : ℕ) : ℚ) ≤ (2 ^ 53 : ℕ) := by exact_mod_cast first.small
    push_cast at small
    have large := second.large first above
    have next : (2 : ℚ) ^ (e + 1) ≤ 2 ^ f := zpow_le_zpow_right₀ (by norm_num) above
    rw [zpow_add_one₀ (by norm_num)] at next
    calc (m + 1 / 2 : ℚ) * 2 ^ e < 2 ^ 53 * 2 ^ e := mul_lt_mul_of_pos_right (by linarith) unit
      _ = 2 ^ 52 * (2 ^ e * 2) := by ring
      _ ≤ k * 2 ^ f := mul_le_mul large next (by positivity) (by positivity)
  · have next : (m + 1 : ℚ) ≤ k := by exact_mod_cast more
    exact mul_lt_mul_of_pos_right (by linarith) unit

/-- A smaller double is beyond what is rounded to a double. -/
theorem Canonical.half_below (first : Canonical m e) (second : Canonical k f) (less : (m : ℚ) * 2 ^ e < k * 2 ^ f) :
    (m : ℚ) * 2 ^ e < (k - if k = 2 ^ 52 ∧ -1074 < f then 1 / 4 else 1 / 2) * 2 ^ f := by
  have unit : (0 : ℚ) < 2 ^ f := by positivity
  rcases (first.lt_iff second).mp less with above | ⟨rfl, more⟩
  · refine (first.mul_le_of_exponent_lt above).trans_lt (mul_lt_mul_of_pos_right ?_ unit)
    have least := first.least
    split
    next power =>
      rw [power.1]
      norm_num
    next other =>
      have large : 2 ^ 52 ≤ k := second.full.resolve_right (by omega)
      have larger : 2 ^ 52 < k := lt_of_le_of_ne large fun same => other ⟨same.symm, by omega⟩
      have next : (2 ^ 52 + 1 : ℚ) ≤ k := by exact_mod_cast larger
      linarith
  · have next : (m + 1 : ℚ) ≤ k := by exact_mod_cast more
    refine mul_lt_mul_of_pos_right ?_ unit
    split <;> linarith

variable {v : ℚ}

/-- What is not above a double is not rounded to one above it. -/
theorem Around.le (around : Around m e v) (canonical : Canonical m e) (bound : Canonical k f) (below : v ≤ k * 2 ^ f) :
    (m : ℚ) * 2 ^ e ≤ k * 2 ^ f := by
  by_contra more
  have beyond := bound.half_below canonical (not_le.mp more)
  exact absurd (around.least.trans below) (not_le.mpr beyond)

/-- What is not below a double is not rounded to one below it. -/
theorem Around.ge (around : Around m e v) (canonical : Canonical m e) (bound : Canonical k f) (above : k * 2 ^ f ≤ v) :
    (k : ℚ) * 2 ^ f ≤ m * 2 ^ e := by
  by_contra less
  have beyond := canonical.half_above bound (not_le.mp less)
  exact absurd (above.trans around.most) (not_le.mpr beyond)

end Comparing

/-! ## To every number a double -/

/-- The whole number next to a number; of two that are equally near, the even one. -/
theorem exists_nearest {y : ℚ} (nonneg : 0 ≤ y) :
    ∃ m : ℕ, m - 1 / 2 ≤ y ∧ y ≤ m + 1 / 2 ∧ (m % 2 = 1 → m - 1 / 2 < y ∧ y < m + 1 / 2) := by
  have low : (⌊y⌋₊ : ℚ) ≤ y := Nat.floor_le nonneg
  have high : y < ⌊y⌋₊ + 1 := Nat.lt_floor_add_one y
  generalize ⌊y⌋₊ = n at low high
  rcases lt_trichotomy y (n + 1 / 2) with nearer | half | farther
  · exact ⟨n, by linarith, by linarith, fun _ => ⟨by linarith, nearer⟩⟩
  · rcases Nat.mod_two_eq_zero_or_one n with even | odd
    · exact ⟨n, by linarith, by linarith, fun odd => by omega⟩
    · exact ⟨n + 1, by push_cast; linarith, by push_cast; linarith, fun odd => by omega⟩
  · exact ⟨n + 1, by push_cast; linarith, by push_cast; linarith, fun _ => by push_cast; constructor <;> linarith⟩

/-- A number that is neither too small nor too large for it is rounded to a double. -/
theorem exists_around {v : ℚ} {P : ℤ} (least : 2 ^ P ≤ v) (most : v < 2 ^ (P + 1)) (normal : -1022 ≤ P) :
    ∃ m e, Canonical m e ∧ 2 ^ 52 ≤ m ∧ Around m e v ∧ P - 52 ≤ e ∧ e ≤ P - 51 := by
  have unit : (0 : ℚ) < 2 ^ (P - 52) := by positivity
  have scaled : v = v / 2 ^ (P - 52) * 2 ^ (P - 52) := by field_simp
  have low : (2 : ℚ) ^ 52 ≤ v / 2 ^ (P - 52) := by
    rw [le_div_iff₀ unit, ← zpow_natCast, ← zpow_add₀ (by norm_num)]
    have place : ((52 : ℕ) : ℤ) + (P - 52) = P := by omega
    rwa [place]
  have high : v / 2 ^ (P - 52) < 2 ^ 53 := by
    rw [div_lt_iff₀ unit, ← zpow_natCast, ← zpow_add₀ (by norm_num)]
    have place : ((53 : ℕ) : ℤ) + (P - 52) = P + 1 := by omega
    rwa [place]
  generalize v / 2 ^ (P - 52) = y at scaled low high
  obtain ⟨m, below, above, odd⟩ := exists_nearest (le_trans (by norm_num) low)
  have large : 2 ^ 52 ≤ m := by
    have : ((2 ^ 52 : ℕ) : ℚ) < (m + 1 : ℕ) := by push_cast; linarith
    exact Nat.lt_succ_iff.mp (by exact_mod_cast this)
  have small : m ≤ 2 ^ 53 := by
    have : (m : ℚ) < (2 ^ 53 + 1 : ℕ) := by push_cast; linarith
    exact Nat.lt_succ_iff.mp (by exact_mod_cast this)
  rw [scaled]
  by_cases carried : m = 2 ^ 53
  · -- Rounded up to the next power of two, which has an exponent of its own.
    subst carried
    push_cast at below
    have twice : (2 : ℚ) ^ (P - 51) = 2 * 2 ^ (P - 52) := by
      rw [← zpow_one_add₀ (by norm_num)]
      congr 1
      ring
    refine ⟨2 ^ 52, P - 51, ⟨by norm_num, by omega, .inl le_rfl⟩, le_rfl, ⟨?_, ?_, by norm_num⟩, by omega, le_rfl⟩
    · rw [if_pos ⟨rfl, by omega⟩, twice, ← mul_assoc]
      refine mul_le_mul_of_nonneg_right ?_ unit.le
      push_cast
      linarith
    · rw [twice, ← mul_assoc]
      refine mul_le_mul_of_nonneg_right ?_ unit.le
      push_cast
      linarith
  · refine ⟨m, P - 52, ⟨by omega, by omega, .inl large⟩, large, ⟨?_, ?_, fun isOdd => ?_⟩, le_rfl, by omega⟩
    · refine mul_le_mul_of_nonneg_right ?_ unit.le
      split
      next power =>
        rw [power.1]
        push_cast
        linarith
      · exact below
    · exact mul_le_mul_of_nonneg_right above unit.le
    · obtain ⟨below, above⟩ := odd isOdd
      exact ⟨mul_lt_mul_of_pos_right below unit, mul_lt_mul_of_pos_right above unit⟩

/-! ## Comparing and dividing doubles -/

theorem le_unpacked_iff {m k : ℕ} {e f : ℤ} (first : Canonical m e) (second : Canonical k f) (positive : 0 < m)
    (positive' : 0 < k) :
    UnpackedFloat.le (.finite .positive m e positive) (.finite .positive k f positive') = true ↔
      (m : ℚ) * 2 ^ e ≤ k * 2 ^ f := by
  rw [← not_lt, second.lt_iff first]
  change ((compare e f).then (compare m k)).isLE = true ↔ _
  rcases lt_trichotomy e f with less | rfl | more
  · rw [Int.compare_eq_lt.mpr less]
    exact iff_of_true rfl (by omega)
  · simp [Nat.isLE_compare]
  · rw [Int.compare_eq_gt.mpr more]
    exact iff_of_false Bool.false_ne_true (by omega)

section Exact

variable {x y : Float} {v w : ℚ}

theorem le_iff_of_exactly (first : Exactly x v) (second : Exactly y w) : x ≤ y ↔ v ≤ w := by
  obtain ⟨m, e, positive, unpacked, rfl, -⟩ := first
  obtain ⟨k, f, positive', unpacked', rfl, -⟩ := second
  rw [Binary64.le_iff, unpacked, unpacked']
  exact le_unpacked_iff (canonical_of_unpack unpacked) (canonical_of_unpack unpacked') positive positive'

theorem Exactly.pos (exactly : Exactly x v) : 0 < v := by
  obtain ⟨m, e, positive, -, rfl, -⟩ := exactly
  have some : (0 : ℚ) < m := by exact_mod_cast positive
  positivity

theorem exponent_le_of_unpack {m : ℕ} {e : ℤ} {positive : 0 < m}
    (unpacked : x.toModel.unpack = .finite .positive m e positive) : e ≤ 971 := by
  have finite := Binary64.ofFloat_eq x
  rw [unpacked] at finite
  exact exponent_le_of_ofFloat finite

/-- A quotient between two doubles is rounded to a double between them. -/
theorem exists_quotient (dividend : Exactly x v) (divisor : Exactly y w) {low high : Float} {a b : ℚ}
    (isLow : Exactly low a) (isHigh : Exactly high b) (above : a ≤ v / w) (below : v / w ≤ b) :
    ∃ q, Exactly (x / y) q ∧ a ≤ q ∧ q ≤ b := by
  obtain ⟨P, least, most⟩ := exists_mem_Ico_zpow (isLow.pos.trans_le above) one_lt_two
  obtain ⟨j, d, positiveLow, unpackedLow, rfl, largeLow⟩ := isLow
  obtain ⟨k, f, positiveHigh, unpackedHigh, rfl, -⟩ := isHigh
  have lowest := canonical_of_unpack unpackedLow
  have highest := canonical_of_unpack unpackedHigh
  have normal : -1022 ≤ P := by
    have start : (2 : ℚ) ^ (52 + d) ≤ v / w := by
      refine le_trans ?_ above
      rw [zpow_add₀ (by norm_num)]
      exact mul_le_mul_of_nonneg_right (by exact_mod_cast largeLow) (by positivity)
    have := exponent_le start most
    have := lowest.least
    omega
  obtain ⟨m, e, canonical, large, around, -, -⟩ := exists_around least most normal
  have positive : 0 < m := by omega
  have notAbove := around.le canonical highest below
  have notBelow := around.ge canonical lowest above
  have finite : e ≤ 971 := by
    have order := (highest.lt_iff canonical).not.mp (not_lt.mpr notAbove)
    have := exponent_le_of_unpack unpackedHigh
    omega
  refine ⟨_, ⟨m, e, positive, ?_, rfl, large⟩, notBelow, notAbove⟩
  obtain ⟨i, g, positiveX, unpackedX, rfl, -⟩ := dividend
  obtain ⟨n, h, positiveY, unpackedY, rfl, -⟩ := divisor
  change (Float.Model.pack (UnpackedFloat.div Format.binary64 x.toModel.unpack y.toModel.unpack)).unpack = _
  rw [unpackedX, unpackedY, div_eq canonical positive positiveX positiveY around]
  exact unpack_pack .positive large canonical.small canonical.least finite positive

end Exact

end Chip8Console.Doubles
