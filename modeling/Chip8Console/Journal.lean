import Chip8Console.Failure
import Chip8Console.Input.TerminalKey

/-!
# The journal

Whatever the console does to the world outside leaves an entry in its journal: each call on the machine, each fetch
it starts, each call on the beeper, each refresh of what the player sees, and each notice for the log.  The
entries are in the order in which things were done, so the journal also says what came before what.
-/

namespace Chip8Console

inductive Call where
  | reset
  | load (bytes : List UInt8)
  | cycle
  | opCode
  | press (line : UInt8)
  | release (line : UInt8)
deriving DecidableEq

inductive BeeperCall where
  | beep
  | stop
deriving DecidableEq

inductive Level where
  | debug
  | info
  | warn
  | error
deriving DecidableEq

def Level.name : Level → String
  | .debug => "DEBUG"
  | .info => "INFO"
  | .warn => "WARN"
  | .error => "ERROR"

inductive Notice where
  | schedulerRunning
  | schedulerStopped
  /-- The cycle with this number ended with a failure. -/
  | cycleFailed (number : Nat) (cause : Failure)
  | stepFailed (cause : Failure)
  | soundFailed (cause : Failure)
  /-- A key stands twice in a table; its first line is kept. -/
  | duplicateKey (key : HostKey) (kept ignored : KeyLine) (description : String)
  /-- A program was asked for while another one was on its way. -/
  | loadDropped (index : Nat)
  | fetching (name locator : String)
  | loaded (name : String) (size : Nat)
  | loadFailed (cause : Failure)
  /-- The program at this place of the catalog could not be loaded. -/
  | leftUnloaded (index : Nat)
  | selectionFailed (cause : Failure)
  | frameSkipped (cause : Failure)
  | unmappedKey (key : TerminalKey)
  | quit

namespace Notice

def level : Notice → Level
  | .schedulerRunning | .schedulerStopped | .loadDropped _ | .fetching .. | .leftUnloaded _
  | .unmappedKey _ => .debug
  | .loaded .. | .quit => .info
  | .cycleFailed .. | .stepFailed _ | .soundFailed _ | .duplicateKey .. => .warn
  | .loadFailed _ | .selectionFailed _ | .frameSkipped _ => .error

def text : Notice → String
  | .schedulerRunning => "scheduler running"
  | .schedulerStopped => "scheduler stopped"
  | .cycleFailed number cause => s!"cycle {number} failed: " ++ cause.message
  | .stepFailed cause => "step failed: " ++ cause.message
  | .soundFailed cause => cause.message
  | .duplicateKey key kept ignored description =>
    s!"key {key.code} mapped twice; keeping line 0x" ++ Text.hexText kept.number.toNat
      ++ ", ignoring 0x" ++ Text.hexText ignored.number.toNat ++ " (" ++ description ++ ")"
  | .loadDropped index => s!"load of program {index} dropped; another load is in flight"
  | .fetching name locator => "fetching " ++ name ++ " from " ++ locator
  | .loaded name size => "loaded " ++ name ++ s!" ({size} bytes)"
  | .loadFailed cause => cause.message
  | .leftUnloaded index => s!"program {index} left unloaded"
  | .selectionFailed cause => cause.message
  | .frameSkipped cause => "frame skipped: " ++ cause.message
  | .unmappedKey key => "unmapped terminal key " ++ key.name
  | .quit => "quit"

def line (n : Notice) : String :=
  n.level.name ++ " " ++ n.text

end Notice

inductive Entry where
  | call (call : Call)
  /-- A fetch was started. -/
  | fetch (locator : String)
  | beeper (call : BeeperCall)
  | refresh
  | notice (notice : Notice)

namespace Entry

def call? : Entry → Option Call
  | .call c => some c
  | _ => none

def fetch? : Entry → Option String
  | .fetch locator => some locator
  | _ => none

def beeper? : Entry → Option BeeperCall
  | .beeper c => some c
  | _ => none

def notice? : Entry → Option Notice
  | .notice n => some n
  | _ => none

@[simp] theorem call?_call (c : Call) : (Entry.call c).call? = some c := rfl
@[simp] theorem call?_fetch (l : String) : (Entry.fetch l).call? = none := rfl
@[simp] theorem call?_beeper (c : BeeperCall) : (Entry.beeper c).call? = none := rfl
@[simp] theorem call?_refresh : Entry.refresh.call? = none := rfl
@[simp] theorem call?_notice (n : Notice) : (Entry.notice n).call? = none := rfl

end Entry

abbrev Journal := Array Entry

namespace Journal

def add (j : Journal) (entry : Entry) : Journal :=
  j.push entry

def note (j : Journal) (notice : Notice) : Journal :=
  j.push (.notice notice)

def noteAll (j : Journal) (notices : List Notice) : Journal :=
  notices.foldl note j

def calls (j : Journal) : List Call :=
  j.toList.filterMap Entry.call?

def fetches (j : Journal) : List String :=
  j.toList.filterMap Entry.fetch?

def beeperCalls (j : Journal) : List BeeperCall :=
  j.toList.filterMap Entry.beeper?

def notices (j : Journal) : List Notice :=
  j.toList.filterMap Entry.notice?

/-- What was done after the first `n` entries. -/
def since (j : Journal) (n : Nat) : Journal :=
  j.extract n j.size

end Journal

end Chip8Console
