import Chip8Console.Input.HeldKeys
import Chip8Console.Journal

/-!
# Input

* `Keyboard` turns the keys that a terminal reports into host events.
* `Script` hands out batches of events that were written down beforehand.
-/

namespace Chip8Console

structure Keyboard where
  held : HeldKeys

namespace Keyboard

/-- A key is reported.  Controls come first; a key that means nothing is told to the log. -/
def report (k : Keyboard) (key : TerminalKey) (now : Nat) :
    Keyboard × Option HostEvent × Option Notice :=
  match key.control? with
  | some event => (k, some event, none)
  | none =>
    match key.hostKey? with
    | some hostKey =>
      let (held, edge) := k.held.press hostKey now
      ({ held }, some (.key edge), none)
    | none => (k, none, some (.unmappedKey key))

/-- Keys that have not been reported for a while come up. -/
def expire (k : Keyboard) (now : Nat) : Keyboard × List KeyEdge :=
  let (held, edges) := k.held.expire now
  ({ held }, edges)

def reportAll (k : Keyboard) (now : Nat) :
    List TerminalKey → Keyboard × List HostEvent × List Notice
  | [] => (k, [], [])
  | key :: keys =>
    let (k, event, notice) := k.report key now
    let (k, events, notices) := reportAll k now keys
    (k, event.toList ++ events, notice.toList ++ notices)

/-- Everything that happened since the last time: first the keys that come up, then what was reported. -/
def poll (k : Keyboard) (reports : List TerminalKey) (now : Nat) :
    Keyboard × List HostEvent × List Notice :=
  let (k, edges) := k.expire now
  let (k, events, notices) := k.reportAll now reports
  (k, edges.map .key ++ events, notices)

end Keyboard

/-- Batches of events that are handed out one after the other. -/
structure Script where
  batches : List (List HostEvent)

namespace Script

/-- The next batch; once all are handed out, there are no more events. -/
def poll (s : Script) : Script × List HostEvent :=
  match s.batches with
  | [] => (s, [])
  | batch :: batches => ({ batches }, batch)

end Script

end Chip8Console
