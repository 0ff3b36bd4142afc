import Chip8Console.Catalog.Document
import Chip8Console.Display.Raster
import Chip8Console.Display.Renderer
import Chip8Console.Fetching
import Chip8Console.Session
import Chip8Console.Settings.Document
import Chip8Console.Tone

/-!
# The console

The console holds the machine and everything that touches it, and lends the machine to one part at a time: to the loader
when a program is chosen or has arrived, to the scheduler on a tick or a step, to the router for key edges.  So no part
ever sees the machine half way through what another part does to it.
-/

namespace Chip8Console

structure Screen where
  renderer : Renderer
  raster : Raster
  /-- The frames that were drawn.  Like `Scheduler.cycles` this stands for a counter of sixty-four bits, which no run
  gets to overflow. -/
  frames : Nat := 0

namespace Screen

def new (renderer : Renderer) : Screen where
  renderer
  raster := .empty renderer.resolution

/-- Draws a frame; one of the wrong size is skipped. -/
def draw (s : Screen) (pixels : List UInt8) : Screen × List Notice :=
  match s with
  | ⟨renderer, raster, frames⟩ =>
    match renderer.render pixels raster with
    | (raster, .ok ()) => (⟨renderer, raster, frames + 1⟩, [])
    | (raster, .error failure) => (⟨renderer, raster, frames⟩, [.frameSkipped failure])

end Screen

/-- A refresh draws the machine's display and, if they are shown, takes note of its registers. -/
instance {σ : Type} [Machine σ] : View (Screen × Panel) σ where
  refresh := fun (screen, panel) machine =>
    let (screen, notices) := screen.draw (Machine.contents machine)
    ((screen, panel.updateDebug (Machine.registers machine)), notices)

inductive Flow where
  | continue
  | quit
deriving DecidableEq

structure Console (σ δ : Type) where
  session : Session σ
  screen : Screen
  tone : ToneGate δ

namespace Console

variable {σ δ : Type} [Machine σ] [Beeper δ]

/-! ## Setting up -/

/-- A console with the given settings.  The beeper is used only if sound is asked for. -/
def new (machine : σ) (beeper : δ) (fetcher : Fetcher) (catalog : Catalog) (settings : Settings) :
    Except Failure (Console σ δ) := do
  settings.validate
  let foreground ← settings.foregroundColour
  return {
    session := .new machine settings.frameRate fetcher catalog
    screen := .new { resolution := settings.resolution, foreground }
    tone := if settings.sound then { device := some beeper } else .muted }

/-- A console whose programs and catalog are found where the settings say. -/
def ofSettings (machine : σ) (beeper : δ) (tree : FileTree) (settings : Settings) :
    Except Failure (Console σ δ) := do
  let catalog ← settings.catalog tree
  new machine beeper (.folder tree settings.programFolder) catalog settings

def withTone (c : Console σ δ) (tone : ToneGate δ) : Console σ δ :=
  { c with tone }

/-! ## Its parts -/

/-- Has the tone follow the machine, or fall silent. -/
def updateTone (c : Console σ δ) (active : Bool) : Console σ δ :=
  match c with
  | ⟨session, screen, tone⟩ =>
    let (tone, journal) := tone.update active session.rig.journal
    ⟨{ session with rig := { session.rig with journal } }, screen, tone⟩

def within {α : Type} (c : Console σ δ) (act : Session σ → Session σ × α) : Console σ δ × α :=
  match c with
  | ⟨session, screen, tone⟩ =>
    let (session, answer) := act session
    (⟨session, screen, tone⟩, answer)

def note (c : Console σ δ) (notice : Notice) : Console σ δ :=
  (c.within fun s => ({ s with rig := s.rig.note notice }, ())).1

def soundActive (c : Console σ δ) : Bool :=
  Machine.soundActive c.session.rig.machine

/-! ## Programs -/

/-- Asks for a program.  If it is on its way, the machine was reset and has no tone any more. -/
def choose (c : Console σ δ) (ask : Session σ → Session σ × Except Failure Selection) :
    Console σ δ × Except Failure Selection :=
  let (c, answer) := c.within ask
  match answer with
  | .ok (.loading index) => (c.updateTone false, .ok (.loading index))
  | answer => (c, answer)

/-- Asks for the first program of the catalog. -/
def boot (c : Console σ δ) : Console σ δ × Except Failure Selection :=
  c.choose (·.select 0)

/-- Asks for a program and reports if there is no such program. -/
def change (c : Console σ δ) (ask : Session σ → Session σ × Except Failure Selection) :
    Console σ δ :=
  match c.choose ask with
  | (c, .ok _) => c
  | (c, .error failure) => c.note (.selectionFailed failure)

/-- Looks what has become of the program on its way. -/
def pollLoad (c : Console σ δ) : Console σ δ :=
  match c.within Session.poll with
  | (c, .failed index) => c.note (.leftUnloaded index)
  | (c, _) => c

/-! ## Running -/

/-- The host ticks at the time `now`, in milliseconds. -/
def tick (c : Console σ δ) (now : Float) : Console σ δ × Tick :=
  match c.pollLoad with
  | ⟨⟨rig, scheduler, router, panel, loader⟩, screen, tone⟩ =>
    let (scheduler, rig, (screen, panel), tick) := scheduler.tick now rig (screen, panel)
    let c : Console σ δ := ⟨⟨rig, scheduler, router, panel, loader⟩, screen, tone⟩
    match tick with
    | .executed => (c.updateTone c.soundActive, .executed)
    | tick => (c, tick)

def step (c : Console σ δ) : Console σ δ :=
  match c with
  | ⟨⟨rig, scheduler, router, panel, loader⟩, screen, tone⟩ =>
    let (scheduler, rig, (screen, panel)) := scheduler.step rig (screen, panel)
    let c : Console σ δ := ⟨⟨rig, scheduler, router, panel, loader⟩, screen, tone⟩
    c.updateTone c.soundActive

def halt (c : Console σ δ) : Console σ δ :=
  (c.within fun s => (s.stop, ())).1.updateTone false

def resume (c : Console σ δ) : Console σ δ :=
  (c.within fun s => (s.start, ())).1

/-- Shows or hides the registers.  They are looked at straight away and not only with the next frame. -/
def toggleDebug (c : Console σ δ) : Console σ δ :=
  (c.within fun s =>
    ({ s with panel := s.panel.toggleDebug.updateDebug (Machine.registers s.rig.machine) }, ())).1

def key (c : Console σ δ) (edge : KeyEdge) : Console σ δ :=
  (c.within fun s =>
    let (rig, _) := s.router.edge edge s.rig
    ({ s with rig }, ())).1

def handle (c : Console σ δ) : HostEvent → Console σ δ × Flow
  | .key edge => (c.key edge, .continue)
  | .halt => (c.halt, .continue)
  | .resume => (c.resume, .continue)
  | .step => (c.step, .continue)
  | .nextProgram => (c.change Session.selectNext, .continue)
  | .prevProgram => (c.change Session.selectPrev, .continue)
  | .toggleDebug => (c.toggleDebug, .continue)
  | .quit => (c, .quit)

end Console

end Chip8Console
