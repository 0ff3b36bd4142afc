import Chip8Console.Pacer
import Mathlib.Data.Rat.Floor
import Mathlib.Tactic.FieldSimp
import Mathlib.Tactic.Linarith

/-! # Pacing by an exact clock

On the clock of exact fractions the reference time moves by whole intervals only.  `advance_exact`
says all that a question to the pacer can do; whatever is proved about exact pacing rests on it
and on `floor_elapsed`, which recovers the number of intervals from the time that has passed.
-/

namespace Chip8Console.Pacer

/-! ## Whole intervals -/

/-- Between `k` and `k + 1` intervals hold `k` whole ones. -/
theorem floor_elapsed {interval elapsed : Rat} {k : Nat} (positive : 0 < interval)
    (reached : k * interval ≤ elapsed) (short : elapsed < (k + 1) * interval) :
    (elapsed / interval).floor = k := by
  have low : (k : Rat) ≤ elapsed / interval := (le_div_iff₀ positive).mpr reached
  have high : elapsed / interval < k + 1 := (div_lt_iff₀ positive).mpr short
  apply le_antisymm
  · apply Int.lt_add_one_iff.mp
    exact Rat.floor_lt_iff.mpr (by exact_mod_cast high)
  · exact Rat.le_floor_iff.mpr (by exact_mod_cast low)

/-- The remainder of a span of at least one interval lies on the grid of whole intervals. -/
theorem rem_exact {interval elapsed : Rat} (positive : 0 < interval) (due : interval < elapsed) :
    ∃ k : Nat, 1 ≤ k ∧ Clock.rem elapsed interval = elapsed - k * interval ∧
      k * interval ≤ elapsed ∧ elapsed < (k + 1) * interval := by
  have quotientLarge : 1 < elapsed / interval := (one_lt_div positive).mpr due
  have floorPositive : 1 ≤ (elapsed / interval).floor :=
    Rat.le_floor_iff.mpr (by exact_mod_cast quotientLarge.le)
  obtain ⟨k, floorEqual⟩ := Int.eq_ofNat_of_zero_le (by omega : 0 ≤ (elapsed / interval).floor)
  refine ⟨k, by omega, ?_, ?_, ?_⟩
  · have nonnegative : 0 ≤ elapsed / interval := by linarith
    change elapsed - truncatedQuotient elapsed interval * interval = _
    simp [truncatedQuotient, nonnegative, floorEqual]
  · have low := Rat.floor_le (elapsed / interval)
    rw [floorEqual] at low
    exact (le_div_iff₀ positive).mp (by exact_mod_cast low)
  · have high := Rat.lt_floor_add_one (elapsed / interval)
    rw [floorEqual] at high
    exact (div_lt_iff₀ positive).mp (by exact_mod_cast high)

/-! ## Questions to the pacer -/

variable {p : Pacer Rat}

/-- A question either finds that at most an interval has passed, and at most sets the reference, or
moves the reference up by the whole intervals that have passed. -/
theorem advance_exact (positive : 0 < p.interval) (now : Rat) :
    let reference := p.reference.getD now
    (now - reference ≤ p.interval ∧
      p.advance now = ({ p with reference := some reference }, false)) ∨
    (p.interval < now - reference ∧ ∃ k : Nat, 1 ≤ k ∧
      k * p.interval ≤ now - reference ∧ now - reference < (k + 1) * p.interval ∧
      p.advance now = ({ p with reference := some (reference + k * p.interval) }, true)) := by
  intro reference
  by_cases early : now - reference ≤ p.interval
  · left
    refine ⟨early, ?_⟩
    have waits : Clock.le (Clock.sub now reference) p.interval = true := decide_eq_true early
    simp only [advance]
    rw [if_pos waits]
  · right
    have due : p.interval < now - reference := not_le.mp early
    obtain ⟨k, atLeastOne, remainder, reached, short⟩ := rem_exact positive due
    refine ⟨due, k, atLeastOne, reached, short, ?_⟩
    have fires : ¬ Clock.le (Clock.sub now reference) p.interval = true := by
      simpa [Clock.le, Clock.sub] using early
    have moved : Clock.sub now (Clock.rem (Clock.sub now reference) p.interval) =
        reference + k * p.interval := by
      change now - Clock.rem (now - reference) p.interval = _
      rw [remainder]
      ring
    simp only [advance]
    rw [if_neg fires, moved]

end Chip8Console.Pacer
