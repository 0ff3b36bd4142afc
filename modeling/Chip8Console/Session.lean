import Chip8Console.Catalog
import Chip8Console.Keypad.Router
import Chip8Console.Panel
import Chip8Console.Scheduler

/-!
# Loading programs

To change the program takes two steps.  `Session.select` resets the machine, so that the old program does not go on
running, shows the name of the new one and starts to fetch it.  `Session.poll` looks whether the fetch has come to
anything; if there is an image, it is put into the machine, the scheduler starts, all lines of the keypad come up and
the keys of the program are installed.

At most one program is on its way at any time.  What is asked for in the meantime is dropped.
-/

namespace Chip8Console

inductive LoadState where
  | idle
  | loading
deriving DecidableEq

/-- The place in the catalog, and the fetch that is under way. -/
structure Loader where
  fetcher : Fetcher
  catalog : Catalog
  /-- The place of the current program; at first, that of the first one. -/
  current : Nat := 0
  state : LoadState := .idle
  pending : Option Nat := none

namespace Loader

def isLoading (l : Loader) : Bool :=
  l.state = .loading

def program (l : Loader) : Program :=
  l.catalog.get l.current

end Loader

inductive Selection where
  /-- The program at this place is on its way. -/
  | loading (index : Nat)
  /-- Another program is on its way. -/
  | dropped
deriving DecidableEq

/-- What has become of the program that was on its way. -/
inductive Completion where
  /-- None was, or it still is. -/
  | nothing
  | loaded (index : Nat)
  | failed (index : Nat)
deriving DecidableEq

/-- A machine with everything that a change of program touches. -/
structure Session (σ : Type) where
  rig : Rig σ
  scheduler : Scheduler Float
  router : Router := {}
  panel : Panel := {}
  loader : Loader

namespace Session

variable {σ : Type} [Machine σ]

def new (machine : σ) (frameRate : Float) (fetcher : Fetcher) (catalog : Catalog) : Session σ where
  rig := { machine }
  scheduler := .ofRate frameRate
  loader := { fetcher, catalog }

/-! ## The parts of a change of program -/

def start (s : Session σ) : Session σ :=
  let (scheduler, notices) := s.scheduler.start
  { s with scheduler, rig := s.rig.noteAll notices }

def stop (s : Session σ) : Session σ :=
  let (scheduler, notices) := s.scheduler.stop
  { s with scheduler, rig := s.rig.noteAll notices }

def install (s : Session σ) (mappings : List KeyMapping) : Session σ :=
  let (router, notices) := s.router.install mappings
  { s with router, rig := s.rig.noteAll notices }

/-- Sends for the program at a place of the catalog. -/
def send (s : Session σ) (index : Nat) (program : Program) : Session σ :=
  let rig := s.rig.reset.note (.fetching program.name program.locator)
  let (rig, ticket) := rig.startFetch s.loader.fetcher program.locator
  { s with
    rig
    panel := (s.panel.setLabel program.name).clearError
    loader := { s.loader with current := index, state := .loading, pending := some ticket } }

/-- The fetch that was under way is over. -/
def close (s : Session σ) (ticket : Nat) : Session σ :=
  { s with
    rig := s.rig.closeFetch ticket
    loader := { s.loader with state := .idle, pending := none } }

/-- Puts an image into the machine and lets it run. -/
def finish (s : Session σ) (program : Program) (bytes : List UInt8) : Session σ :=
  let s := { s with rig := s.rig.load bytes }
  let s := s.start
  let s := { s with rig := s.rig.releaseAll }
  let s := s.install program.mappings
  { s with
    panel := s.panel.setControls program.mappings
    rig := s.rig.note (.loaded program.name bytes.length) }

def fail (s : Session σ) (failure : Failure) : Session σ :=
  { s with
    panel := s.panel.showError failure.message
    rig := s.rig.note (.loadFailed failure) }

/-! ## Changing the program -/

/-- Asks for the program at a place of the catalog. -/
def select (s : Session σ) (index : Nat) : Session σ × Except Failure Selection :=
  if s.loader.isLoading then
    ({ s with rig := s.rig.note (.loadDropped index) }, .ok .dropped)
  else match s.loader.catalog.get? index with
    | none => (s, .error (.noSuchProgram index))
    | some program => (s.send index program, .ok (.loading index))

def selectNext (s : Session σ) : Session σ × Except Failure Selection :=
  s.select (s.loader.catalog.next s.loader.current)

def selectPrev (s : Session σ) : Session σ × Except Failure Selection :=
  s.select (s.loader.catalog.prev s.loader.current)

/-- Looks what has become of the program on its way. -/
def poll (s : Session σ) : Session σ × Completion :=
  match s.loader.pending with
  | none => (s, .nothing)
  | some ticket =>
    match s.rig.outcome? ticket with
    | none => (s, .nothing)
    | some (.ok bytes) =>
      ((s.close ticket).finish s.loader.program bytes, .loaded s.loader.current)
    | some (.error failure) => ((s.close ticket).fail failure, .failed s.loader.current)

/-! ## The other end of the fetches -/

def deliver (s : Session σ) (ticket : Nat) (answer : Fetched) : Session σ × Delivery :=
  let (rig, delivery) := s.rig.deliver ticket answer
  ({ s with rig }, delivery)

def abandon (s : Session σ) (ticket : Nat) : Session σ × Delivery :=
  let (rig, delivery) := s.rig.abandon ticket
  ({ s with rig }, delivery)

/-- The worker that fetches the program on its way, if there is one, gets done. -/
def awaitWorker (s : Session σ) : Session σ :=
  match s.loader.pending with
  | none => s
  | some ticket =>
    match s.loader.fetcher.later s.loader.program.locator with
    | none => s
    | some answer => (s.deliver ticket answer).1

end Session

end Chip8Console
