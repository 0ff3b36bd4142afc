import Chip8Console.Pacer
import Chip8Console.Rig

/-!
# Scheduling

The scheduler runs the machine: one cycle whenever the pacer says that a frame is due, unless it is stopped, and single
instructions on request whether it is stopped or not.  After each of them the view is shown the machine.  Time goes on
while the scheduler is stopped, so that nothing bunches up afterwards, and it goes on before the machine runs, so that a
failing cycle cannot upset it.
-/

namespace Chip8Console

/-- The rate of frames, in hertz, unless the settings say otherwise. -/
def defaultFrameRate : Float := 60

/-- Something that is shown the machine after every cycle and every step. -/
class View (ν σ : Type) where
  refresh : ν → σ → ν × List Notice

def Rig.show {ν σ : Type} [View ν σ] (rig : Rig σ) (view : ν) : Rig σ × ν :=
  let (view, notices) := View.refresh view rig.machine
  ({ rig with journal := (rig.journal.add .refresh).noteAll notices }, view)

inductive Tick where
  /-- No frame was due. -/
  | waiting
  /-- A frame was due and the scheduler is stopped. -/
  | skipped
  | executed
deriving DecidableEq

structure Scheduler (τ : Type) where
  pacer : Pacer τ
  running : Bool := false
  /-- The cycles that ticks have executed.  This stands for a counter of sixty-four bits, which lasts for more than five
  hundred million years at a cycle each millisecond, so it is a number without a bound here. -/
  cycles : Nat := 0
  /-- The instructions that steps have executed, in a counter of the same size. -/
  steps : Nat := 0

namespace Scheduler

variable {τ σ ν : Type} [Clock τ] [Machine σ] [View ν σ]

/-- A stopped scheduler for a rate in hertz. -/
def ofRate (rate : τ) : Scheduler τ where
  pacer := .ofRate rate

def start (s : Scheduler τ) : Scheduler τ × List Notice :=
  ({ s with running := true }, if s.running then [] else [.schedulerRunning])

def stop (s : Scheduler τ) : Scheduler τ × List Notice :=
  ({ s with running := false }, if s.running then [.schedulerStopped] else [])

def tick (s : Scheduler τ) (now : τ) (rig : Rig σ) (view : ν) :
    Scheduler τ × Rig σ × ν × Tick :=
  let (pacer, due) := s.pacer.advance now
  let s := { s with pacer }
  if !due then (s, rig, view, .waiting)
  else if !s.running then (s, rig, view, .skipped)
  else
    let (rig, fault) := rig.runCycle
    let rig := rig.noteAll (fault.toList.map (.cycleFailed s.cycles))
    let (rig, view) := rig.show view
    ({ s with cycles := s.cycles + 1 }, rig, view, .executed)

/-- One instruction, whether the scheduler is stopped or not. -/
def step (s : Scheduler τ) (rig : Rig σ) (view : ν) : Scheduler τ × Rig σ × ν :=
  let (rig, fault) := rig.runOpCode
  let rig := rig.noteAll (fault.toList.map .stepFailed)
  let (rig, view) := rig.show view
  ({ s with steps := s.steps + 1 }, rig, view)

end Scheduler

end Chip8Console
