import Mathlib

/-! # Rounding to doubles

A number is rounded to a double by cutting its mantissa off and by looking at what was cut: whether it is less than a
half, a half, or more (`Represents`).  What lies in the interval around a double is rounded to that double
(`roundWithAccuracy_eq`), so a quotient or a product that does is that double (`div_eq`, `mul_eq`).
-/

namespace Chip8Console.Doubles

open Float.Model (UnpackedFloat Format.binary64 totalExponent)
open Float.Model.UnpackedFloat

/-- A mantissa with the two bits that say what was cut off it. -/
def Represents (em : ExtendedMantissa) (y : ℚ) : Prop :=
  match em.roundBit, em.stickyBit with
  | false, false => y = em.mantissa
  | false, true => em.mantissa < y ∧ y < em.mantissa + 1 / 2
  | true, false => y = em.mantissa + 1 / 2
  | true, true => em.mantissa + 1 / 2 < y ∧ y < em.mantissa + 1

theorem represents_exact (m : ℕ) : Represents (.ofMantissaAndAccuracy m .exact) m :=
  rfl

theorem represents_fraction (m : ℕ) {n : ℕ} (positive : 0 < n) :
    Represents (.ofMantissaAndAccuracy (m / n) (accuracyOfFraction (m % n) n)) (m / n) := by
  have positive' : (0 : ℚ) < n := by exact_mod_cast positive
  have value : (m : ℚ) / n = (m / n : ℕ) + ((m % n : ℕ) : ℚ) / n := by
    have whole : (m : ℚ) = n * (m / n : ℕ) + (m % n : ℕ) := by exact_mod_cast (Nat.div_add_mod m n).symm
    field_simp
    exact whole
  have small : ((m % n : ℕ) : ℚ) / n < 1 := by
    rw [div_lt_one positive']
    exact_mod_cast Nat.mod_lt m positive
  rw [value]
  unfold accuracyOfFraction
  split
  · next none => simp [Represents, ExtendedMantissa.ofMantissaAndAccuracy, none]
  · next some =>
    have above : 0 < ((m % n : ℕ) : ℚ) / n := div_pos (by exact_mod_cast Nat.pos_of_ne_zero some) positive'
    rcases lt_trichotomy (2 * (m % n)) n with less | half | more
    · have below : ((m % n : ℕ) : ℚ) / n < 1 / 2 := by
        rw [div_lt_iff₀ positive']
        have : ((2 * (m % n) : ℕ) : ℚ) < n := by exact_mod_cast less
        push_cast at this
        linarith
      rw [Nat.compare_eq_lt.mpr less]
      simp only [Represents, ExtendedMantissa.ofMantissaAndAccuracy]
      constructor <;> linarith
    · have same : ((m % n : ℕ) : ℚ) / n = 1 / 2 := by
        rw [div_eq_iff positive'.ne']
        have : ((2 * (m % n) : ℕ) : ℚ) = n := by exact_mod_cast half
        push_cast at this
        linarith
      rw [Nat.compare_eq_eq.mpr half]
      simp only [Represents, ExtendedMantissa.ofMantissaAndAccuracy, same]
    · have beyond : 1 / 2 < ((m % n : ℕ) : ℚ) / n := by
        rw [lt_div_iff₀ positive']
        have : (n : ℚ) < (2 * (m % n) : ℕ) := by exact_mod_cast more
        push_cast at this
        linarith
      rw [Nat.compare_eq_gt.mpr more]
      simp only [Represents, ExtendedMantissa.ofMantissaAndAccuracy]
      constructor <;> linarith

theorem Represents.shiftRightOne {em : ExtendedMantissa} {y : ℚ} (represents : Represents em y) :
    Represents em.shiftRightOne (y / 2) := by
  obtain ⟨m, round, sticky⟩ := em
  have halves : (m : ℚ) = 2 * (m / 2 : ℕ) + (m % 2 : ℕ) := by exact_mod_cast (Nat.div_add_mod m 2).symm
  have even : ((0 : ℕ) != 0) = false := rfl
  have odd : ((1 : ℕ) != 0) = true := rfl
  rcases Nat.mod_two_eq_zero_or_one m with parity | parity <;>
    cases round <;> cases sticky <;>
    simp only [Represents, ExtendedMantissa.shiftRightOne, parity, even, odd, Nat.cast_zero, Nat.cast_one,
      Bool.or_false, Bool.or_true] at represents halves ⊢ <;>
    first | linarith | constructor <;> linarith

/-- Bits that are shifted out are kept account of. -/
theorem Represents.shiftRight {em : ExtendedMantissa} {y : ℚ} (represents : Represents em y) (n : ℕ) :
    Represents (em >>> n) (y / 2 ^ n) := by
  change Represents (n.repeat ExtendedMantissa.shiftRightOne em) _
  induction n with
  | zero => simpa [Nat.repeat] using represents
  | succ n ih =>
    rw [Nat.repeat, pow_succ, ← div_div]
    exact ih.shiftRightOne

/-- What lies around a mantissa is rounded to it; of the two ends, if it is even. -/
theorem Represents.roundedMantissa {em : ExtendedMantissa} {y : ℚ} (represents : Represents em y) {m : ℕ}
    (least : m - 1 / 2 ≤ y) (most : y ≤ m + 1 / 2) (inside : m % 2 = 1 → m - 1 / 2 < y ∧ y < m + 1 / 2) :
    em.roundedMantissa = m := by
  obtain ⟨n, round, sticky⟩ := em
  have below {k : ℕ} (less : (m : ℚ) < k + 1) : m ≤ k := by
    have : (m : ℚ) < (k + 1 : ℕ) := by push_cast; exact less
    exact Nat.lt_succ_iff.mp (by exact_mod_cast this)
  have above {k : ℕ} (less : (k : ℚ) < m + 1) : k ≤ m := by
    have : (k : ℚ) < (m + 1 : ℕ) := by push_cast; exact less
    exact Nat.lt_succ_iff.mp (by exact_mod_cast this)
  cases round with
  | false =>
    cases sticky with
    | false =>
      have same : y = n := represents
      have low : n ≤ m := above (by linarith)
      have high : m ≤ n := below (by linarith)
      exact Nat.le_antisymm low high
    | true =>
      obtain ⟨least', most'⟩ : (n : ℚ) < y ∧ y < n + 1 / 2 := represents
      have low : n ≤ m := above (by linarith)
      have high : m ≤ n := below (by linarith)
      exact Nat.le_antisymm low high
  | true =>
    cases sticky with
    | false =>
      -- Half way between two mantissas, the even one of them is meant.
      have half : y = n + 1 / 2 := represents
      have rounded : (ExtendedMantissa.mk n true false).roundedMantissa = n + n % 2 := rfl
      have low : n ≤ m := above (by linarith)
      have high : m ≤ n + 1 := below (by push_cast; linarith)
      have even : m % 2 = 0 := by
        by_contra odd
        obtain ⟨least, most⟩ := inside (by omega)
        have : m ≤ n := below (by linarith)
        have : n < m := by
          have : (n : ℚ) < m := by linarith
          exact_mod_cast this
        omega
      rw [rounded]
      omega
    | true =>
      obtain ⟨low, high⟩ : (n : ℚ) + 1 / 2 < y ∧ y < n + 1 := represents
      have rounded : (ExtendedMantissa.mk n true true).roundedMantissa = n + 1 := rfl
      have : n + 1 ≤ m := above (by push_cast; linarith)
      have : m ≤ n + 1 := below (by push_cast; linarith)
      rw [rounded]
      omega

theorem Represents.bounds {em : ExtendedMantissa} {y : ℚ} (represents : Represents em y) :
    em.mantissa ≤ y ∧ y < em.mantissa + 1 := by
  obtain ⟨n, round, sticky⟩ := em
  cases round <;> cases sticky <;> simp only [Represents] at represents <;> constructor <;> linarith

@[simp] theorem mantissa_ofMantissaAndAccuracy (m : ℕ) (accuracy : Accuracy) :
    (ExtendedMantissa.ofMantissaAndAccuracy m accuracy).mantissa = m := by
  unfold ExtendedMantissa.ofMantissaAndAccuracy
  split <;> rfl

/-! ## Exponents -/

theorem targetExponent_eq (total : ℤ) : Format.binary64.targetExponent total = max (total - 53) (-1074) :=
  rfl

theorem exponent_le {P Q : ℤ} {v : ℚ} (least : 2 ^ P ≤ v) (most : v < 2 ^ (Q + 1)) : P ≤ Q := by
  have less : (2 : ℚ) ^ P < 2 ^ (Q + 1) := least.trans_lt most
  exact Int.lt_add_one_iff.mp ((zpow_lt_zpow_iff_right₀ (by norm_num)).mp less)

/-- The exponent for a mantissa is found from the mantissa that was cut off, unless all of it was cut off. -/
theorem targetExponent_totalExponent {q : ℕ} {t P : ℤ} {y v : ℚ} (low : q ≤ y) (high : y < q + 1)
    (value : v = y * 2 ^ t) (least : 2 ^ P ≤ v) (most : v < 2 ^ (P + 1)) (fine : t ≤ max (P - 52) (-1074)) :
    Format.binary64.targetExponent (totalExponent q t) = max (P - 52) (-1074) := by
  rw [targetExponent_eq, totalExponent]
  have positive : (0 : ℚ) < 2 ^ t := by positivity
  by_cases none : q = 0
  · subst none
    have small : v < 2 ^ t := by
      rw [value]
      have : y < 1 := by simpa using high
      nlinarith
    have : P ≤ t - 1 := exponent_le least (by simpa using small)
    have : Nat.log2 0 = 0 := rfl
    omega
  · have below : (2 : ℚ) ^ (q.log2 + t) ≤ v := by
      have : ((2 ^ q.log2 : ℕ) : ℚ) ≤ q := by exact_mod_cast Nat.log2_self_le none
      rw [zpow_add₀ (by norm_num), value, zpow_natCast]
      push_cast at this
      exact mul_le_mul_of_nonneg_right (this.trans low) positive.le
    have above : v < 2 ^ (q.log2 + t + 1) := by
      have : ((q + 1 : ℕ) : ℚ) ≤ (2 ^ (q.log2 + 1) : ℕ) := by exact_mod_cast Nat.lt_log2_self
      push_cast at this
      have : y < 2 ^ (q.log2 + 1) := high.trans_le this
      calc v = y * 2 ^ t := value
        _ < 2 ^ (q.log2 + 1) * 2 ^ t := mul_lt_mul_of_pos_right this positive
        _ = 2 ^ ((q.log2 + 1 : ℕ) + t : ℤ) := by rw [zpow_add₀ (by norm_num), zpow_natCast]
        _ = 2 ^ (q.log2 + t + 1 : ℤ) := by congr 1; push_cast; ring
    have := exponent_le below most
    have := exponent_le least above
    omega

/-! ## Doubles and the numbers around them -/

/-- The mantissa and the exponent of a double: all of its bits are used, unless the exponent is the lowest one. -/
structure Canonical (m : ℕ) (e : ℤ) : Prop where
  small : m < 2 ^ 53
  least : -1074 ≤ e
  full : 2 ^ 52 ≤ m ∨ e = -1074

/-- Where numbers round to this double.  The neighbour below a power of two is only half as far away as the others. -/
structure Around (m : ℕ) (e : ℤ) (v : ℚ) : Prop where
  least : (m - if m = 2 ^ 52 ∧ -1074 < e then 1 / 4 else 1 / 2) * 2 ^ e ≤ v
  most : v ≤ (m + 1 / 2) * 2 ^ e
  inside : m % 2 = 1 → (m - 1 / 2) * 2 ^ e < v ∧ v < (m + 1 / 2) * 2 ^ e

variable {m : ℕ} {e : ℤ} {v : ℚ}

theorem Canonical.targetExponent (canonical : Canonical m e) (positive : 0 < m) :
    Format.binary64.targetExponent (totalExponent m e) = e := by
  obtain ⟨small, least, full⟩ := canonical
  rw [targetExponent_eq, totalExponent]
  have upper : m.log2 < 53 := (Nat.log2_lt positive.ne').mpr small
  rcases full with large | lowest
  · have lower : 52 ≤ m.log2 := (Nat.le_log2 positive.ne').mpr large
    omega
  · omega

theorem shiftToTargetExponent_eq {q : ℕ} {t T : ℤ} (accuracy : Accuracy)
    (target : Format.binary64.targetExponent (totalExponent q t) = T) (fine : t ≤ T) :
    shiftToTargetExponent Format.binary64 q t accuracy =
      (ExtendedMantissa.ofMantissaAndAccuracy q accuracy >>> (T - t).toNat, T) := by
  unfold shiftToTargetExponent shiftToExponent
  have reached : t + ((T - t).toNat : ℤ) = T := by omega
  simp only [target, reached]

/-- The exponent of a number around a double is that of the double; or the number is below a power of two and the
exponent lower by one. -/
theorem Around.exponent (around : Around m e v) (canonical : Canonical m e) {P : ℤ} (least : 2 ^ P ≤ v)
    (most : v < 2 ^ (P + 1)) :
    max (P - 52) (-1074) = e ∨ (max (P - 52) (-1074) = e - 1 ∧ m = 2 ^ 52 ∧ -1074 < e ∧ v < 2 ^ (52 + e)) := by
  have unit : (0 : ℚ) < 2 ^ e := by positivity
  have scaled (k : ℕ) : (2 : ℚ) ^ (k + e : ℤ) = 2 ^ k * 2 ^ e := by rw [zpow_add₀ (by norm_num), zpow_natCast]
  have upper : P ≤ 52 + e := by
    refine exponent_le least ?_
    have small : ((m + 1 : ℕ) : ℚ) ≤ (2 ^ 53 : ℕ) := by exact_mod_cast canonical.small
    push_cast at small
    calc v ≤ (m + 1 / 2) * 2 ^ e := around.most
      _ < 2 ^ 53 * 2 ^ e := mul_lt_mul_of_pos_right (by linarith) unit
      _ = 2 ^ (52 + e + 1) := by rw [← scaled]; congr 1; push_cast; ring
  by_cases lowest : e = -1074
  · omega
  have above : -1074 < e := lt_of_le_of_ne canonical.least (Ne.symm lowest)
  have large : 2 ^ 52 ≤ m := canonical.full.resolve_right lowest
  have nearby := around.least
  by_cases power : m = 2 ^ 52
  · have lower : 51 + e ≤ P := by
      refine exponent_le ?_ most
      rw [if_pos ⟨power, above⟩, power] at nearby
      calc (2 : ℚ) ^ (51 + e) = 2 ^ 51 * 2 ^ e := scaled 51
        _ ≤ ((2 ^ 52 : ℕ) - 1 / 4) * 2 ^ e := mul_le_mul_of_nonneg_right (by norm_num) unit.le
        _ ≤ v := nearby
    by_cases same : P = 52 + e
    · omega
    · have below : P + 1 = 52 + e := by omega
      rw [below] at most
      exact .inr ⟨by omega, power, above, most⟩
  · have lower : 52 + e ≤ P := by
      refine exponent_le ?_ most
      rw [if_neg fun both => power both.1] at nearby
      have more : ((2 ^ 52 + 1 : ℕ) : ℚ) ≤ m := by exact_mod_cast lt_of_le_of_ne large (Ne.symm power)
      push_cast at more
      calc (2 : ℚ) ^ (52 + e) = 2 ^ 52 * 2 ^ e := scaled 52
        _ ≤ (m - 1 / 2) * 2 ^ e := mul_le_mul_of_nonneg_right (by linarith) unit.le
        _ ≤ v := nearby
    omega

theorem Around.roundedMantissa_eq (around : Around m e v) {em : ExtendedMantissa} {y : ℚ} (represents : Represents em y)
    (scaled : v = y * 2 ^ e) : em.roundedMantissa = m := by
  have unit : (0 : ℚ) < 2 ^ e := by positivity
  obtain ⟨least, most, inside⟩ := around
  rw [scaled] at least most inside
  refine represents.roundedMantissa ?_ (le_of_mul_le_mul_right most unit) fun odd => ?_
  · have nearby := le_of_mul_le_mul_right least unit
    split at nearby <;> linarith
  · obtain ⟨low, high⟩ := inside odd
    exact ⟨lt_of_mul_lt_mul_right low unit.le, lt_of_mul_lt_mul_right high unit.le⟩

/-- Below a power of two the next place is asked for too, so all of that power is rounded to. -/
theorem Around.roundedMantissa_below (around : Around (2 ^ 52) e v) {em : ExtendedMantissa} {y : ℚ}
    (represents : Represents em y) (scaled : v = y * 2 ^ (e - 1)) (above : -1074 < e) (below : v < 2 ^ (52 + e)) :
    em.roundedMantissa = 2 ^ 53 := by
  have unit : (0 : ℚ) < 2 ^ (e - 1) := by positivity
  have twice : (2 : ℚ) ^ e = 2 * 2 ^ (e - 1) := by
    rw [zpow_sub_one₀ (by norm_num)]
    ring
  refine represents.roundedMantissa ?_ ?_ (by norm_num)
  · have nearby := around.least
    rw [if_pos ⟨rfl, above⟩, twice, scaled, ← mul_assoc] at nearby
    have least := le_of_mul_le_mul_right nearby unit
    push_cast at least ⊢
    linarith
  · have far : v < 2 ^ 53 * 2 ^ (e - 1) := by
      have same : (2 : ℚ) ^ (52 + e) = 2 ^ 53 * 2 ^ (e - 1) := by
        rw [zpow_add₀ (by norm_num), twice]
        norm_num
        ring
      rwa [same] at below
    rw [scaled] at far
    have most := lt_of_mul_lt_mul_right far unit.le
    push_cast
    linarith

theorem roundWithAccuracy_of_stages (positive : 0 < m) {q r : ℕ} {t T : ℤ} {accuracy : Accuracy}
    {em em' : ExtendedMantissa} {sign : Sign} (first : shiftToTargetExponent Format.binary64 q t accuracy = (em, T))
    (rounded : em.roundedMantissa = r) (second : shiftToTargetExponent Format.binary64 r T .exact = (em', e))
    (last : em'.mantissa = m) :
    roundWithAccuracy Format.binary64 sign q t accuracy = .finite sign m e positive := by
  subst last
  simp only [roundWithAccuracy, first, rounded, second, positive.ne', ↓reduceDIte]

/-- A number around a double is rounded to it, as long as it is known to at least as many places as the double has. -/
theorem roundWithAccuracy_eq (canonical : Canonical m e) (positive : 0 < m) (around : Around m e v) {q : ℕ} {t P : ℤ}
    {accuracy : Accuracy} {y : ℚ} (represents : Represents (.ofMantissaAndAccuracy q accuracy) y)
    (value : v = y * 2 ^ t) (least : 2 ^ P ≤ v) (most : v < 2 ^ (P + 1)) (fine : t ≤ max (P - 52) (-1074)) (sign : Sign) :
    roundWithAccuracy Format.binary64 sign q t accuracy = .finite sign m e positive := by
  obtain ⟨low, high⟩ := represents.bounds
  rw [mantissa_ofMantissaAndAccuracy] at low high
  have target := targetExponent_totalExponent low high value least most fine
  have place := around.exponent canonical least most
  generalize max (P - 52) (-1074) = T at target fine place
  have first := shiftToTargetExponent_eq accuracy target fine
  have shifted := represents.shiftRight (T - t).toNat
  have scaled : v = y / 2 ^ (T - t).toNat * 2 ^ T := by
    have reached : t + ((T - t).toNat : ℤ) = T := by omega
    calc v = y * 2 ^ t := value
      _ = y / 2 ^ (T - t).toNat * 2 ^ (t + ((T - t).toNat : ℤ)) := by
        rw [zpow_add₀ (by norm_num), zpow_natCast]
        field_simp
      _ = y / 2 ^ (T - t).toNat * 2 ^ T := by rw [reached]
  rcases place with rfl | ⟨rfl, rfl, above, below⟩
  · have rounded := around.roundedMantissa_eq shifted scaled
    have second := shiftToTargetExponent_eq .exact (canonical.targetExponent positive) (Int.le_refl _)
    refine roundWithAccuracy_of_stages positive first rounded second ?_
    rw [Int.sub_self]
    rfl
  · -- The mantissa has become too large by one bit, and that bit is shifted out again.
    have rounded := around.roundedMantissa_below shifted scaled above below
    have wide : Format.binary64.targetExponent (totalExponent (2 ^ 53) (e - 1)) = e := by
      rw [targetExponent_eq, totalExponent, Nat.log2_two_pow]
      omega
    have second := shiftToTargetExponent_eq .exact wide (by omega)
    refine roundWithAccuracy_of_stages positive first rounded second ?_
    rw [show e - (e - 1) = 1 by omega]
    rfl

/-! ## Quotients and products -/

section Operations

variable {a b : ℕ} {f g : ℤ}

/-- The bits of a quotient are as many as those of the dividend are more than those of the divisor, or one fewer. -/
theorem totalExponent_sub_le (dividend : 0 < a) (divisor : 0 < b) {P : ℤ}
    (most : (a : ℚ) * 2 ^ f / (b * 2 ^ g) < 2 ^ (P + 1)) : totalExponent a f - totalExponent b g ≤ P + 1 := by
  have large : (2 : ℚ) ^ a.log2 ≤ a := by exact_mod_cast Nat.log2_self_le dividend.ne'
  have small : (b : ℚ) ≤ 2 ^ (b.log2 + 1) := by exact_mod_cast Nat.lt_log2_self.le
  have some : (0 : ℚ) < b := by exact_mod_cast divisor
  have least : (2 : ℚ) ^ (totalExponent a f - totalExponent b g - 1) ≤ a * 2 ^ f / (b * 2 ^ g) := by
    have parts : totalExponent a f - totalExponent b g - 1 = ((a.log2 : ℕ) + f) - ((b.log2 + 1 : ℕ) + g) := by
      simp only [totalExponent]
      push_cast
      ring
    rw [parts, zpow_sub₀ (by norm_num), zpow_add₀ (by norm_num), zpow_add₀ (by norm_num), zpow_natCast, zpow_natCast]
    gcongr
  have := exponent_le least most
  omega

theorem div_eq (canonical : Canonical m e) (positive : 0 < m) (dividend : 0 < a) (divisor : 0 < b)
    (around : Around m e (a * 2 ^ f / (b * 2 ^ g))) :
    UnpackedFloat.div Format.binary64 (.finite .positive a f dividend) (.finite .positive b g divisor) =
      .finite .positive m e positive := by
  have dividend' : (0 : ℚ) < a := by exact_mod_cast dividend
  have divisor' : (0 : ℚ) < b := by exact_mod_cast divisor
  have above : 0 < (a : ℚ) * 2 ^ f / (b * 2 ^ g) := by positivity
  obtain ⟨P, least, most⟩ := exists_mem_Ico_zpow above one_lt_two
  have bits := totalExponent_sub_le dividend divisor most
  change roundWithAccuracy Format.binary64 .positive _ _ _ = _
  generalize place : min (f - g) (Format.binary64.targetExponent (totalExponent a f - totalExponent b g)) = t
  have fine : t ≤ max (P - 52) (-1074) := by
    rw [targetExponent_eq] at place
    omega
  have value : (a : ℚ) * 2 ^ f / (b * 2 ^ g) = (a <<< (f - g - t).toNat : ℕ) / b * 2 ^ t := by
    have reached : f = ((f - g - t).toNat : ℤ) + t + g := by omega
    have unit : (2 : ℚ) ^ f = 2 ^ (f - g - t).toNat * 2 ^ t * 2 ^ g := by
      rw [← zpow_natCast, ← zpow_add₀ (by norm_num), ← zpow_add₀ (by norm_num), ← reached]
    rw [Nat.shiftLeft_eq, unit]
    push_cast
    field_simp
  exact roundWithAccuracy_eq canonical positive around (represents_fraction _ divisor) value least most fine _

theorem mul_eq (canonical : Canonical m e) (positive : 0 < m) (left : 0 < a) (right : 0 < b)
    (around : Around m e (a * b * 2 ^ (f + g))) {P : ℤ} (large : 2 ^ P ≤ (a * b : ℚ) * 2 ^ (f + g))
    (fine : f + g ≤ max (P - 52) (-1074)) :
    UnpackedFloat.mul Format.binary64 (.finite .positive a f left) (.finite .positive b g right) =
      .finite .positive m e positive := by
  have left' : (0 : ℚ) < a := by exact_mod_cast left
  have right' : (0 : ℚ) < b := by exact_mod_cast right
  have above : 0 < (a : ℚ) * b * 2 ^ (f + g) := by positivity
  obtain ⟨Q, least, most⟩ := exists_mem_Ico_zpow above one_lt_two
  have := exponent_le large most
  have value : (a * b : ℚ) * 2 ^ (f + g) = (a * b : ℕ) * 2 ^ (f + g) := by push_cast; ring
  exact roundWithAccuracy_eq canonical positive around (represents_exact _) value least most (by omega) _

end Operations

end Chip8Console.Doubles
