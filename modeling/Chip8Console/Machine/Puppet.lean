import Chip8Console.Machine

/-!
# A machine on strings

A machine that interprets nothing.  Its display, its registers, its tone and whether it stumbles are set from outside;
by itself it only moves its program counter, by one instruction for each cycle and each op code.
-/

namespace Chip8Console

structure Puppet where
  pixels : List UInt8 := List.replicate (displayWidth * displayHeight) 0
  registers : Registers := {}
  sound : Bool := false
  /-- Every cycle and every op code ends with a failure. -/
  faulty : Bool := false

namespace Puppet

/-- Moves the program counter on by one instruction. -/
def advance (p : Puppet) : Puppet × Option Failure :=
  let registers := { p.registers with programCounter := p.registers.programCounter + 2 }
  ({ p with registers }, if p.faulty then some (.machine "unknown op code 0xffff") else none)

instance : Machine Puppet where
  reset p := { p with registers := {} }
  load p _ := p
  runCycle := advance
  runOpCode := advance
  press p _ := p
  release p _ := p
  contents := pixels
  registers := registers
  soundActive := sound

end Puppet

end Chip8Console
