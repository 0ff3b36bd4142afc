import Chip8Console.Binary64

/-!
# Pacing

The host asks at whatever rate it manages whether a frame is due; the machine wants its frames at a steady rate.  The
pacer decides by the clock alone.  It keeps a reference time, and once more than an interval has passed since then a
frame is due and the reference moves up by whole intervals.  What is left over is kept, so the frames stay in step with
the clock.

The arithmetic of the clock is a parameter: `Clock Float` is what the console runs on, and the clock of exact fractions
is there to reason about it.
-/

namespace Chip8Console

/-- The arithmetic of a clock that counts milliseconds. -/
class Clock (τ : Type) where
  sub : τ → τ → τ
  /-- What is left of the first time once a whole number of the second is taken away. -/
  rem : τ → τ → τ
  le : τ → τ → Bool
  /-- The milliseconds between frames at a rate in hertz. -/
  interval : τ → τ

instance : Clock Float where
  sub a b := a - b
  rem a b := ((Binary64.ofFloat a).remainder (.ofFloat b)).toFloat
  le a b := a ≤ b
  interval rate := 1000 / rate

/-- The quotient of two fractions without its fractional part. -/
def truncatedQuotient (a b : Rat) : Int :=
  let q := a / b
  if 0 ≤ q then q.floor else q.ceil

instance : Clock Rat where
  sub a b := a - b
  rem a b := a - truncatedQuotient a b * b
  le a b := a ≤ b
  interval rate := 1000 / rate

/-- The reference time and the interval between frames. -/
structure Pacer (τ : Type) where
  interval : τ
  /-- The time from which the next frame is counted; there is none before the first question. -/
  reference : Option τ := none

namespace Pacer

variable {τ : Type} [Clock τ]

def ofRate (rate : τ) : Pacer τ where
  interval := Clock.interval rate

/-- Asks at the time `now` whether a frame is due. -/
def advance (p : Pacer τ) (now : τ) : Pacer τ × Bool :=
  let reference := p.reference.getD now
  let elapsed := Clock.sub now reference
  if Clock.le elapsed p.interval then ({ p with reference := some reference }, false)
  else ({ p with reference := some (Clock.sub now (Clock.rem elapsed p.interval)) }, true)

@[simp] theorem interval_advance (p : Pacer τ) (now : τ) :
    (p.advance now).1.interval = p.interval := by
  unfold advance
  grind

end Pacer

end Chip8Console
