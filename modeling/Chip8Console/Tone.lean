import Chip8Console.Journal

/-!
# The tone

The tone gate follows the tone of the machine and turns to the beeper only when it changes.  A beeper that fails is
reported; the gate goes on as if it had worked.
-/

namespace Chip8Console

/-- A device that can make a sound, with states of type `δ`. -/
class Beeper (δ : Type) where
  beep : δ → δ × Option Failure
  stop : δ → δ × Option Failure

/-- The gate between the machine's tone and the beeper. -/
structure ToneGate (δ : Type) where
  /-- The beeper; a muted gate has none. -/
  device : Option δ
  sounding : Bool := false

namespace ToneGate

variable {δ : Type}

def muted : ToneGate δ where
  device := none

variable [Beeper δ]

def switch (device : δ) (on : Bool) (journal : Journal) : δ × Journal :=
  let (device, fault) := if on then Beeper.beep device else Beeper.stop device
  let journal := journal.add (.beeper (if on then .beep else .stop))
  (device, journal.noteAll (fault.toList.map .soundFailed))

def update (gate : ToneGate δ) (active : Bool) (journal : Journal) : ToneGate δ × Journal :=
  if active = gate.sounding then (gate, journal)
  else match gate.device with
    | none => ({ gate with sounding := active }, journal)
    | some device =>
      let (device, journal) := switch device active journal
      ({ device := some device, sounding := active }, journal)

end ToneGate

end Chip8Console
