import Chip8Console.Keypad
import Chip8Console.Machine

/-!
# The status panel

What the player sees beside the picture: the name of the program, what its keys do, why the last load failed, and, if
asked for, the registers of the machine.
-/

namespace Chip8Console

structure Panel where
  label : String := ""
  /-- The descriptions of the keys. -/
  controls : List String := []
  /-- Why the last load failed. -/
  error : Option String := none
  /-- Whether the registers are to be shown. -/
  debugVisible : Bool := false
  /-- The registers as they were last looked at. -/
  debug : Option Registers := none

namespace Panel

def setLabel (p : Panel) (label : String) : Panel :=
  { p with label }

def setControls (p : Panel) (mappings : List KeyMapping) : Panel :=
  { p with controls := mappings.map (·.description) }

def showError (p : Panel) (message : String) : Panel :=
  { p with error := some message }

def clearError (p : Panel) : Panel :=
  { p with error := none }

def toggleDebug (p : Panel) : Panel :=
  { p with debugVisible := !p.debugVisible }

/-- Takes note of the registers, if they are to be shown. -/
def updateDebug (p : Panel) (registers : Registers) : Panel :=
  if p.debugVisible then { p with debug := some registers } else p

def registerLines (r : Registers) : List String :=
  s!"PC: {r.programCounter}" :: s!"I: {r.index}" ::
    r.general.toList.zipIdx.map fun (value, n) => s!"V{n}: {value}"

/-- The lines of the panel: the label, the error if there is one, then after an empty line the controls, and after
another one the registers. -/
def lines (p : Panel) : List String :=
  let error := p.error.toList.map fun message => "error: " ++ message
  let debug := match p.debugVisible, p.debug with
    | true, some registers => "" :: registerLines registers
    | _, _ => []
  p.label :: error ++ "" :: p.controls ++ debug

end Panel

end Chip8Console
