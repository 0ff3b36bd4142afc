import Chip8Console.Failure

/-!
# The keypad

The machine has a keypad of sixteen lines; the host has a keyboard.  A `KeyMapping` ties a key of the host to a
line of the keypad and says, for the player, what it does.
-/

namespace Chip8Console

/-- The number of lines of the keypad. -/
def keypadLines : Nat := 16

structure KeyLine where
  number : UInt8
  number_lt : number.toNat < keypadLines
deriving DecidableEq

namespace KeyLine

def ofNumber (n : UInt8) : Except Failure KeyLine :=
  if h : n.toNat < keypadLines then .ok ⟨n, h⟩ else .error (.keyLine n)

theorem ofNumber_number (line : KeyLine) : ofNumber line.number = .ok line := by
  simp [ofNumber, line.number_lt]

end KeyLine

/-- A key of the host, by its code.  Letters and digits have the code of their upper-case character, the arrows
those from 37 to 40. -/
structure HostKey where
  code : UInt32
deriving DecidableEq

structure KeyMapping where
  key : HostKey
  line : KeyLine
  description : String
deriving DecidableEq

namespace KeyMapping

/-- A mapping for tables that are written out by hand, where a number off the keypad is a mistake of the
author's and is reported as one. -/
def ofNumbers (key : UInt32) (line : UInt8) (description : String) : Except String KeyMapping :=
  match KeyLine.ofNumber line with
  | .ok line => .ok { key := ⟨key⟩, line, description }
  | .error _ => .error s!"key line must be 0-15: KeyLine({line.toNat})"

end KeyMapping

end Chip8Console
