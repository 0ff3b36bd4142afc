import Chip8Console.Console
import Chip8Console.Terminal

/-!
# The host loop

Round by round the host asks for the events that have come, handles them in order, ticks the console and
presents what it shows.  The loop ends with the first request to quit; what comes after it is not looked at.

What happens outside is a script: the clock at the start of each round, what the question for events is answered, and
the fetches that end in the meantime.
-/

namespace Chip8Console

/-- How a fetch ends at its other end. -/
inductive FetchEnd where
  | answered (ticket : Nat) (answer : Fetched)
  /-- Whoever was to answer goes away. -/
  | abandoned (ticket : Nat)

/-- One round of the loop, as the world outside has it. -/
structure Round where
  /-- The time of the round, in milliseconds. -/
  clock : Float
  /-- The events that have come since the last round, or why they cannot be had. -/
  events : Except Failure (List HostEvent)
  /-- The fetches that end just before the event with this number is handled; after the last event, before the tick. -/
  fetchEnds : Nat → List FetchEnd := fun _ => []

inductive Ending where
  | quit
  | failed (failure : Failure)
  /-- The script has ended, and the loop would go on. -/
  | unfinished

/-- The console and the terminal that the loop works on. -/
structure Host (σ δ : Type) where
  console : Console σ δ
  terminal : Terminal
  polls : Nat := 0

def Console.endFetch {σ δ : Type} (c : Console σ δ) : FetchEnd → Console σ δ
  | .answered ticket answer => (c.within (·.deliver ticket answer)).1
  | .abandoned ticket => (c.within (·.abandon ticket)).1

namespace Host

variable {σ δ : Type} [Machine σ] [Beeper δ]

/-- Handles events in order, up to the first request to quit, while fetches end. -/
def handleAll (console : Console σ δ) (fetchEnds : Nat → List FetchEnd) : List HostEvent → Console σ δ × Flow
  | [] => ((fetchEnds 0).foldl Console.endFetch console, .continue)
  | event :: events =>
    match ((fetchEnds 0).foldl Console.endFetch console).handle event with
    | (console, .continue) => handleAll console (fun n => fetchEnds (n + 1)) events
    | (console, .quit) => (console, .quit)

/-- Ticks the console and presents what it shows. -/
def refresh (host : Host σ δ) (clock : Float) : Host σ δ :=
  match host with
  | ⟨console, terminal, polls⟩ =>
    let (console, _) := console.tick clock
    ⟨console, terminal.present console.screen.raster console.session.panel, polls⟩

def runRounds (host : Host σ δ) : List Round → Host σ δ × Ending
  | [] => (host, .unfinished)
  | ⟨clock, events, fetchEnds⟩ :: rounds =>
    match host with
    | ⟨console, terminal, polls⟩ =>
      match events with
      | .error failure => (⟨console, terminal, polls + 1⟩, .failed failure)
      | .ok events =>
        match handleAll console fetchEnds events with
        | (console, .continue) => runRounds (refresh ⟨console, terminal, polls + 1⟩ clock) rounds
        | (console, .quit) => (⟨console.note .quit, terminal, polls + 1⟩, .quit)

/-- Runs the loop, unless the settings are out of bounds. -/
def run (host : Host σ δ) (settings : Settings) (rounds : List Round) : Host σ δ × Ending :=
  match settings.validate with
  | .error failure => (host, .failed failure)
  | .ok () => host.runRounds rounds

end Host

end Chip8Console
