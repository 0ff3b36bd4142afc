import Chip8Console.Journal
import Chip8Console.Machine

/-!
# The rig

The rig is the console's hand on the world outside: the machine, the fetches that have been started, and the journal of
everything that was done.

A fetch is answered by someone else, whenever they are done.  Until its answer is taken it waits with the fetch; a fetch
takes one answer, and none once the console has finished with it.  Whoever is to answer may also go away; an answer
that is there by then still counts.
-/

namespace Chip8Console

/-- What comes of a fetch: the bytes of a program, or why there are none. -/
abbrev Fetched := Except Failure (List UInt8)

structure Fetch where
  locator : String
  /-- The answer, if it has come and has not been taken. -/
  answer : Option Fetched := none
  /-- Whoever was to answer has gone. -/
  abandoned : Bool := false
  /-- The console has finished with the fetch. -/
  closed : Bool := false

inductive Delivery where
  /-- The fetch was never started. -/
  | noSuchFetch
  /-- Whoever delivers has gone before. -/
  | gone
  /-- An answer is waiting already, or the console has finished with the fetch. -/
  | refused
  | accepted
deriving DecidableEq

structure Fetcher where
  /-- The answer that is there as soon as a fetch has been started. -/
  atOnce : String → Option Fetched
  /-- The answer that a worker will have, some time later. -/
  later : String → Option Fetched

structure Rig (σ : Type) where
  machine : σ
  fetches : Array Fetch := #[]
  journal : Journal := #[]

namespace Rig

variable {σ : Type}

def note (rig : Rig σ) (notice : Notice) : Rig σ :=
  { rig with journal := rig.journal.note notice }

def noteAll (rig : Rig σ) (notices : List Notice) : Rig σ :=
  { rig with journal := rig.journal.noteAll notices }

/-! ## The machine -/

variable [Machine σ]

/-- Has the machine do something that always succeeds. -/
def ask (rig : Rig σ) (call : Call) (act : σ → σ) : Rig σ :=
  { rig with machine := act rig.machine, journal := rig.journal.add (.call call) }

def run (rig : Rig σ) (call : Call) (act : σ → σ × Option Failure) : Rig σ × Option Failure :=
  let (machine, fault) := act rig.machine
  ({ rig with machine, journal := rig.journal.add (.call call) }, fault)

def reset (rig : Rig σ) : Rig σ :=
  rig.ask .reset Machine.reset

def load (rig : Rig σ) (bytes : List UInt8) : Rig σ :=
  rig.ask (.load bytes) (Machine.load · bytes)

def press (rig : Rig σ) (line : UInt8) : Rig σ :=
  rig.ask (.press line) (Machine.press · line)

def release (rig : Rig σ) (line : UInt8) : Rig σ :=
  rig.ask (.release line) (Machine.release · line)

/-- The numbers of all lines of the keypad, in ascending order. -/
def allLines : List UInt8 :=
  (List.range keypadLines).map UInt8.ofNat

/-- All lines of the keypad come up, one after the other. -/
def releaseAll (rig : Rig σ) : Rig σ :=
  allLines.foldl release rig

def runCycle (rig : Rig σ) : Rig σ × Option Failure :=
  rig.run .cycle Machine.runCycle

def runOpCode (rig : Rig σ) : Rig σ × Option Failure :=
  rig.run .opCode Machine.runOpCode

/-- How often the machine was asked for something. -/
def count (rig : Rig σ) (call : Call) : Nat :=
  rig.journal.calls.count call

/-- How many cycles the machine was asked to run. -/
def cycles (rig : Rig σ) : Nat :=
  rig.count .cycle

def loads (rig : Rig σ) : List (List UInt8) :=
  rig.journal.calls.filterMap fun
    | .load bytes => some bytes
    | _ => none

/-! ## Fetches -/

/-- Starts a fetch; its place among the fetches is its ticket. -/
def startFetch (rig : Rig σ) (fetcher : Fetcher) (locator : String) : Rig σ × Nat :=
  ({ rig with
      fetches := rig.fetches.push { locator, answer := fetcher.atOnce locator }
      journal := rig.journal.add (.fetch locator) }, rig.fetches.size)

def deliver (rig : Rig σ) (ticket : Nat) (answer : Fetched) : Rig σ × Delivery :=
  match rig.fetches[ticket]? with
  | none => (rig, .noSuchFetch)
  | some fetch =>
    if fetch.abandoned then (rig, .gone)
    else if fetch.closed || fetch.answer.isSome then (rig, .refused)
    else
      let fetches := rig.fetches.setIfInBounds ticket { fetch with answer := some answer }
      ({ rig with fetches }, .accepted)

def abandon (rig : Rig σ) (ticket : Nat) : Rig σ × Delivery :=
  match rig.fetches[ticket]? with
  | none => (rig, .noSuchFetch)
  | some fetch =>
    if fetch.abandoned then (rig, .gone)
    else
      let fetches := rig.fetches.setIfInBounds ticket { fetch with abandoned := true }
      ({ rig with fetches }, .accepted)

/-- What a fetch has come to, if it has come to anything. -/
def outcome? (rig : Rig σ) (ticket : Nat) : Option Fetched :=
  match rig.fetches[ticket]? with
  | none => none
  | some fetch =>
    match fetch.answer with
    | some answer => some answer
    | none =>
      if fetch.abandoned then some (.error (.fetch fetch.locator .abandoned)) else none

def closeFetch (rig : Rig σ) (ticket : Nat) : Rig σ :=
  let fetches := rig.fetches.modify ticket fun fetch => { fetch with answer := none, closed := true }
  { rig with fetches }

end Rig

end Chip8Console
