import Chip8Console.Settings

/-! # Settings within bounds

What the bounds ask of each field (`Settings.validate_eq_ok_iff`).
-/

namespace Chip8Console.Settings

theorem validate_default : ({} : Settings).validate = .ok () := by
  unfold validate
  rw [if_neg (by decide +kernel), if_neg (by decide +kernel), if_neg (by decide +kernel),
    if_neg (by decide +kernel)]
  rfl

theorem validate_eq_ok_iff {s : Settings} :
    s.validate = .ok () ↔ rateInBounds s.frameRate ∧ rateInBounds s.refreshRate ∧ (1 ≤ s.scale ∧ s.scale ≤ maxScale) ∧
      s.keyHold ≤ maxKeyHold ∧ ∃ colour, Colour.parse s.foreground = .ok colour := by
  constructor
  · intro valid
    unfold validate at valid
    split at valid
    · cases valid
    next frameRate =>
    split at valid
    · cases valid
    next refreshRate =>
    split at valid
    · cases valid
    next scale =>
    split at valid
    · cases valid
    next hold =>
    have colour : ∃ colour, Colour.parse s.foreground = .ok colour := by
      unfold foregroundColour at valid
      cases parsed : Colour.parse s.foreground with
      | ok colour => exact ⟨colour, rfl⟩
      | error cause =>
        rw [parsed] at valid
        cases valid
    simp only [Bool.or_eq_true, decide_eq_true_eq] at scale
    exact ⟨by simpa using frameRate, by simpa using refreshRate, by omega, by omega, colour⟩
  · rintro ⟨frameRate, refreshRate, ⟨least, most⟩, hold, colour, parsed⟩
    have scale : ¬(s.scale < 1 || maxScale < s.scale) := by
      simp only [Bool.or_eq_true, decide_eq_true_eq]
      omega
    unfold validate foregroundColour
    rw [if_neg (by simp [frameRate]), if_neg (by simp [refreshRate]), if_neg scale, if_neg (by omega), parsed]
    rfl

end Chip8Console.Settings
