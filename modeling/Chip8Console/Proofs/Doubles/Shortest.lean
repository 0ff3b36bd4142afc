import Chip8Console.Decimal.Shortest
import Chip8Console.Proofs.Doubles.Scientific

/-! # The shortest digits lie around the double

Intervals are counted in a unit of which every double, and every midpoint between two of them, is a whole multiple
(`Decimal.cast_units`).  So the digits that are picked make a number that rounds to the double
(`Decimal.around_shortest`).
-/

namespace Chip8Console.Decimal

open Doubles (Around around_self)

theorem cast_tenTo (n : ℕ) : (tenTo n : ℚ) = 10 ^ n := by
  have same : tenTo n = 10 ^ n := rfl
  rw [same]
  push_cast
  rfl

theorem ten_zpow : (10 : ℚ) ^ (1076 : ℤ) = tenTo 1076 := by
  rw [cast_tenTo]
  exact zpow_natCast 10 1076

theorem tenTo_pos (n : ℕ) : (0 : ℚ) < tenTo n := by
  rw [cast_tenTo]
  positivity

theorem two_pow_dvd_tenTo {n k : ℕ} (few : n ≤ k) : 2 ^ n ∣ tenTo k :=
  (Nat.pow_dvd_pow 2 few).trans (pow_dvd_pow_of_dvd (by decide : 2 ∣ 10) k)

theorem cast_units (s : ℕ) {e : ℤ} (least : -1076 ≤ e) : (units s e : ℚ) = s * 2 ^ e * tenTo 1076 := by
  have whole : 2 ^ (-e).toNat ∣ tenTo 1076 := two_pow_dvd_tenTo (by omega)
  have power : (2 : ℚ) ^ e = 2 ^ e.toNat / 2 ^ (-e).toNat := by
    rw [← zpow_natCast, ← zpow_natCast, ← zpow_sub₀ (by norm_num)]
    congr 1
    omega
  rw [units, Nat.shiftLeft_eq, Nat.shiftRight_eq_div_pow, power]
  generalize tenTo 1076 = unit at whole ⊢
  obtain ⟨k, rfl⟩ := whole
  have exact : s * (2 ^ (-e).toNat * k) * 2 ^ e.toNat / 2 ^ (-e).toNat = s * k * 2 ^ e.toNat := by
    refine Nat.div_eq_of_eq_mul_right (Nat.two_pow_pos _) ?_
    ring
  rw [exact]
  push_cast
  field_simp

theorem two_zpow_eq (e : ℤ) : (2 : ℚ) ^ e = 4 * 2 ^ (e - 2) := by
  rw [zpow_sub₀ (by norm_num)]
  norm_num
  ring

section Interval

variable {m : ℕ} {e : ℤ}

theorem Interval.cast_low (positive : 0 < m) (least : -1074 ≤ e) : ((Interval.around m e).low : ℚ) =
    (m - if m = 2 ^ 52 ∧ -1074 < e then 1 / 4 else 1 / 2) * 2 ^ e * tenTo 1076 := by
  have lead : Binary64.leadingBit = 2 ^ 52 := rfl
  simp only [Interval.around, cast_units _ (show -1076 ≤ e - 2 by omega), two_zpow_eq e, lead]
  generalize tenTo 1076 = unit
  split
  · rw [Nat.cast_sub (by omega)]
    push_cast
    ring
  · rw [Nat.cast_sub (by omega)]
    push_cast
    ring

theorem Interval.cast_high (least : -1074 ≤ e) :
    ((Interval.around m e).high : ℚ) = (m + 1 / 2) * 2 ^ e * tenTo 1076 := by
  simp only [Interval.around, cast_units _ (show -1076 ≤ e - 2 by omega), two_zpow_eq e]
  generalize tenTo 1076 = unit
  push_cast
  ring

theorem Interval.cast_value (least : -1074 ≤ e) : ((Interval.around m e).value : ℚ) = m * 2 ^ e * tenTo 1076 := by
  simp only [Interval.around, cast_units _ (show -1076 ≤ e - 2 by omega), two_zpow_eq e]
  generalize tenTo 1076 = unit
  push_cast
  ring

theorem Interval.around_of_holds (positive : 0 < m) (least : -1074 ≤ e) {n : ℕ}
    (holds : (Interval.around m e).holds n) : Around m e (n / tenTo 1076) := by
  have unit := tenTo_pos 1076
  have low := Interval.cast_low positive least
  have high := Interval.cast_high (m := m) least
  have closed : (Interval.around m e).closed = decide (m % 2 = 0) := rfl
  unfold Interval.holds at holds
  rw [closed] at holds
  generalize (Interval.around m e).low = below at low holds
  generalize (Interval.around m e).high = above at high holds
  by_cases even : m % 2 = 0
  · simp only [even, decide_true, ↓reduceIte, Bool.and_eq_true, decide_eq_true_eq] at holds
    have above' : (below : ℚ) ≤ n := by exact_mod_cast holds.1
    have below' : (n : ℚ) ≤ above := by exact_mod_cast holds.2
    rw [low] at above'
    rw [high] at below'
    exact ⟨(le_div_iff₀ unit).mpr above', (div_le_iff₀ unit).mpr below', fun odd => by omega⟩
  · simp only [even, decide_false, Bool.false_eq_true, ↓reduceIte, Bool.and_eq_true, decide_eq_true_eq] at holds
    have above' : (below : ℚ) < n := by exact_mod_cast holds.1
    have below' : (n : ℚ) < above := by exact_mod_cast holds.2
    rw [low] at above'
    rw [high] at below'
    -- An odd mantissa is no power of two, so both neighbours are equally far away.
    have other : ¬(m = 2 ^ 52 ∧ -1074 < e) := by omega
    have inside : (m - 1 / 2) * 2 ^ e < n / (tenTo 1076 : ℚ) := by
      rw [if_neg other] at above'
      exact (lt_div_iff₀ unit).mpr above'
    exact ⟨(le_div_iff₀ unit).mpr above'.le, (div_le_iff₀ unit).mpr below'.le, fun _ =>
      ⟨inside, (div_lt_iff₀ unit).mpr below'⟩⟩

/-- The shortest digits of a double make a number that rounds to it. -/
theorem around_shortest (tie : Tie) (positive : 0 < m) (least : -1074 ≤ e) :
    Around m e ((shortest tie m e).coefficient * 10 ^ (shortest tie m e).exponent) := by
  have unit := tenTo_pos 1076
  unfold shortest
  simp only
  cases found : (List.range 17).findSome? _ with
  | none =>
    -- If no digits are few enough, all digits of the double are taken.
    have value : ((Interval.around m e).value : ℚ) * 10 ^ (-1076 : ℤ) = m * 2 ^ e := by
      rw [Interval.cast_value least, zpow_neg, ten_zpow, mul_inv_cancel_right₀ unit.ne']
    simp only [Option.getD_none, value]
    exact around_self m e
  | some d =>
    obtain ⟨places, -, fits⟩ := List.exists_of_findSome?_eq_some found
    obtain ⟨coefficient, nearest, rfl⟩ := Option.map_eq_some_iff.mp fits
    have around := Interval.around_of_holds positive least (Interval.holds_of_nearest nearest)
    simp only [Option.getD_some]
    rw [zpow_sub₀ (by norm_num), ten_zpow, zpow_natCast, ← cast_tenTo, ← mul_div_assoc]
    rwa [Nat.cast_mul] at around

end Interval

end Chip8Console.Decimal
