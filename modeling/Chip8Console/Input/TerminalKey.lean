import Chip8Console.Input.Event
import Chip8Console.Text.Quoted

/-!
# Keys of a terminal

A few keys of a terminal are controls; letters, digits, the space bar, Enter and the arrows are keys of the host
keyboard; all others mean nothing to the console.
-/

namespace Chip8Console

inductive TerminalKey where
  | char (c : Char)
  | function (n : Nat)
  | backspace
  | enter
  | left
  | right
  | up
  | down
  | home
  | «end»
  | pageUp
  | pageDown
  | tab
  | backTab
  | delete
  | insert
  | null
  | escape
deriving DecidableEq

namespace TerminalKey

def name : TerminalKey → String
  | .char c => "Char(" ++ Text.quotedChar c ++ ")"
  | .function n => s!"F({n})"
  | .backspace => "Backspace"
  | .enter => "Enter"
  | .left => "Left"
  | .right => "Right"
  | .up => "Up"
  | .down => "Down"
  | .home => "Home"
  | .«end» => "End"
  | .pageUp => "PageUp"
  | .pageDown => "PageDown"
  | .tab => "Tab"
  | .backTab => "BackTab"
  | .delete => "Delete"
  | .insert => "Insert"
  | .null => "Null"
  | .escape => "Esc"

def control? : TerminalKey → Option HostEvent
  | .function 5 => some .halt
  | .function 6 => some .resume
  | .function 7 => some .step
  | .function 8 => some .toggleDebug
  | .pageDown => some .nextProgram
  | .pageUp => some .prevProgram
  | .escape => some .quit
  | _ => none

def hostKey? : TerminalKey → Option HostKey
  | .char c =>
    if c.isAlphanum then some ⟨c.toUpper.val⟩
    else if c = ' ' then some ⟨32⟩
    else none
  | .enter => some ⟨13⟩
  | .left => some ⟨37⟩
  | .up => some ⟨38⟩
  | .right => some ⟨39⟩
  | .down => some ⟨40⟩
  | _ => none

/-- No key is both a control and a key of the keyboard. -/
theorem hostKey?_of_control? {key : TerminalKey} {event : HostEvent}
    (h : key.control? = some event) : key.hostKey? = none := by
  unfold control? at h
  split at h <;> first | rfl | simp at h

end TerminalKey

end Chip8Console
