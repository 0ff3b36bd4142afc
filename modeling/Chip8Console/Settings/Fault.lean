import Chip8Console.Colour
import Chip8Console.Decimal.Text
import Chip8Console.Text.Quoted

/-!
# Limits of the settings

The bounds that settings have to keep, and the ways in which they can be wrong.
-/

namespace Chip8Console

namespace Settings

def minRate : Float := 1

def maxRate : Float := 1000

/-- The largest number of surface cells to a pixel, each way. -/
def maxScale : Nat := 64

/-- The longest time, in milliseconds, for which a key that does not repeat still counts as held. -/
def maxKeyHold : Nat := 10000

inductive Rate where
  /-- Frames of the machine. -/
  | frame
  /-- Rounds of the host loop. -/
  | refresh
deriving DecidableEq

def Rate.name : Rate → String
  | .frame => "frame_rate"
  | .refresh => "refresh_rate"

inductive Fault where
  | rate (which : Rate) (value : Float)
  | scale (value : Nat)
  | keyHold (value : Nat)
  | colour (cause : ColourFault) (written : String)
  /-- The catalog has no program. -/
  | emptyCatalog
  | other (text : String)

def Fault.message : Fault → String
  | .rate which value =>
    which.name ++ " must be between " ++ Decimal.text Decimal.plain minRate ++ " and "
      ++ Decimal.text Decimal.plain maxRate ++ " Hz, got " ++ Decimal.text Decimal.plain value
  | .scale value => s!"scale must be between 1 and {maxScale}, got {value}"
  | .keyHold value => s!"key_hold_ms must be at most {maxKeyHold}, got {value}"
  | .colour .shape written => "colour must look like #rrggbb, got " ++ Text.quoted written
  | .colour .digits written => "bad hex digits in colour " ++ Text.quoted written
  | .emptyCatalog => "program catalog is empty"
  | .other text => text

end Settings

end Chip8Console
