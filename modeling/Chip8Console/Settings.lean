import Chip8Console.Binary64
import Chip8Console.Display.Resolution
import Chip8Console.Failure

/-!
# Settings

What can be set: the rates of the machine and of the host loop, the scale and colour of the picture, where
programs and their catalog are found, how long a key counts as held, and whether there is sound.

`Settings.validate` refuses settings that are out of bounds; of several faults it reports the first in the order of
the fields.
-/

namespace Chip8Console

structure Settings where
  /-- Frames of the machine per second. -/
  frameRate : Float := 60
  /-- Rounds of the host loop per second. -/
  refreshRate : Float := 60
  /-- Surface cells to a pixel, each way. -/
  scale : Nat := defaultScale
  /-- The colour of lit pixels, as it is written. -/
  foreground : String := "#26cdff"
  /-- The folder that programs are read from. -/
  programFolder : String := "roms"
  /-- The file that the catalog is read from; without one the games that come along are offered. -/
  catalogFile : Option String := none
  /-- For how many milliseconds a key that does not repeat counts as held. -/
  keyHold : Nat := 150
  sound : Bool := false

namespace Settings

/-- Whether a rate is within bounds; what is no number is not. -/
def rateInBounds (rate : Float) : Bool :=
  minRate ≤ rate && rate ≤ maxRate

def foregroundColour (s : Settings) : Except Failure Colour :=
  (Colour.parse s.foreground).mapError fun cause => .settings (.colour cause s.foreground)

def validate (s : Settings) : Except Failure Unit :=
  if !rateInBounds s.frameRate then .error (.settings (.rate .frame s.frameRate))
  else if !rateInBounds s.refreshRate then .error (.settings (.rate .refresh s.refreshRate))
  else if s.scale < 1 || maxScale < s.scale then .error (.settings (.scale s.scale))
  else if maxKeyHold < s.keyHold then .error (.settings (.keyHold s.keyHold))
  else s.foregroundColour.map fun _ => ()

def resolution (s : Settings) : Resolution where
  scale := s.scale

/-- For how many nanoseconds a key that does not repeat counts as held. -/
def keyHoldNanos (s : Settings) : Nat :=
  s.keyHold * 1000000

/-- `numerator / denominator` to the nearest whole number; a half goes to the even neighbour. -/
def roundDiv (numerator denominator : Nat) : Nat :=
  let below := numerator / denominator
  let left := numerator % denominator
  if 2 * left < denominator || (2 * left = denominator && below % 2 = 0) then below else below + 1

/-- A time in seconds as nanoseconds, to the nearest one. -/
def nanoseconds (seconds : Float) : Nat :=
  match Binary64.ofFloat seconds with
  | .finite _ significand exponent =>
    roundDiv ((significand * 1000000000) <<< exponent.toNat) (1 <<< (-exponent).toNat)
  | _ => 0

/-- The time from one round of the host loop to the next, in nanoseconds. -/
def refreshNanos (s : Settings) : Nat :=
  nanoseconds (1 / s.refreshRate)

end Settings

end Chip8Console
