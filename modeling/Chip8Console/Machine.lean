import Chip8Console.Display.Resolution
import Chip8Console.Failure

/-!
# The machine

The machine that runs the programs is not part of the console.  `Machine` is all that the console knows of it: what it
can be asked to do and what can be read off it.
-/

namespace Chip8Console

def registerCount : Nat := 16

structure Registers where
  programCounter : UInt16 := 0
  index : UInt16 := 0
  /-- The general registers, V0 to VF. -/
  general : Vector UInt8 registerCount := Vector.replicate registerCount 0
deriving DecidableEq

/-- What the console asks of a machine with states of type `σ`. -/
class Machine (σ : Type) where
  /-- Clears registers and memory. -/
  reset : σ → σ
  /-- Puts the image of a program into memory. -/
  load : σ → List UInt8 → σ
  /-- Runs for one logical frame. -/
  runCycle : σ → σ × Option Failure
  /-- Runs exactly one instruction. -/
  runOpCode : σ → σ × Option Failure
  /-- A line of the keypad goes down. -/
  press : σ → UInt8 → σ
  /-- A line of the keypad comes up. -/
  release : σ → UInt8 → σ
  /-- The display, one byte to a pixel, row by row. -/
  contents : σ → List UInt8
  registers : σ → Registers
  /-- Whether there is a tone.  A machine without sound need not say. -/
  soundActive : σ → Bool := fun _ => false

end Chip8Console
