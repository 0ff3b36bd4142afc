import Chip8Console.Keypad

/-!
# Host events

Everything that the host can ask of the console: key edges, and the controls that the player has.
-/

namespace Chip8Console

inductive KeyEdge where
  | down (key : HostKey)
  | up (key : HostKey)
deriving DecidableEq

def KeyEdge.key : KeyEdge → HostKey
  | .down key => key
  | .up key => key

inductive HostEvent where
  | key (edge : KeyEdge)
  | halt
  | resume
  | step
  | nextProgram
  | prevProgram
  | toggleDebug
  | quit
deriving DecidableEq

end Chip8Console
