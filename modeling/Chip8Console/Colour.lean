import Chip8Console.Text.Hex

/-!
# Colours

A colour is three channels of one byte.  In settings it is written `#rrggbb`; `Colour.parse` reads that form
and says what is wrong with any other text.
-/

namespace Chip8Console

/-- A colour by its red, green and blue channels. -/
structure Colour where
  red : UInt8
  green : UInt8
  blue : UInt8
deriving DecidableEq

inductive ColourFault where
  /-- It is not a hash sign followed by six ASCII characters. -/
  | shape
  /-- Two of those characters make no number. -/
  | digits
deriving DecidableEq

namespace Colour

/-- The number that two characters make: two digits, or one digit with a plus sign before it. -/
def channel? (a b : Char) : Option UInt8 :=
  if a = '+' then (Text.hexValue? b).map UInt8.ofNat
  else do
    let high ← Text.hexValue? a
    let low ← Text.hexValue? b
    return UInt8.ofNat (high * 16 + low)

def isAscii (c : Char) : Bool :=
  c.toNat < 0x80

/-- Reads `#rrggbb`. -/
def parse (s : String) : Except ColourFault Colour :=
  match s.toList with
  | ['#', a, b, c, d, e, f] =>
    if [a, b, c, d, e, f].all isAscii then
      match channel? a b, channel? c d, channel? e f with
      | some red, some green, some blue => .ok { red, green, blue }
      | _, _, _ => .error .digits
    else .error .shape
  | _ => .error .shape

end Colour

/-- The colour that lit pixels have unless the settings say otherwise. -/
def defaultForeground : Colour where
  red := 0x26
  green := 0xcd
  blue := 0xff

end Chip8Console
