import Chip8Console.Json.Record
import Chip8Console.Json.Write
import Chip8Console.Keypad

/-!
# Key mappings in JSON

A mapping is a record of three fields, all of which are required.  A line off the keypad is refused with the
wording that it has everywhere.
-/

namespace Chip8Console

def KeyLine.read (cs : List Char) : Except Json.Fault (KeyLine × List Char) := do
  let (n, rest) ← Json.readNatBelow UInt8.size "u8" cs
  match KeyLine.ofNumber (UInt8.ofNat n) with
  | .ok line => return (line, rest)
  | .error failure => throw (.rejected failure.message)

def HostKey.read (cs : List Char) : Except Json.Fault (HostKey × List Char) := do
  let (n, rest) ← Json.readNatBelow UInt32.size "u32" cs
  return (⟨UInt32.ofNat n⟩, rest)

namespace KeyMapping

/-- A mapping of which some fields have been read. -/
structure Draft where
  key : Option HostKey := none
  line : Option KeyLine := none
  description : Option String := none

/-- The mapping, or the place of the first field that is missing. -/
def Draft.build (d : Draft) : Except Nat KeyMapping :=
  match d.key, d.line, d.description with
  | some key, some line, some description => .ok { key, line, description }
  | none, _, _ => .error 0
  | _, none, _ => .error 1
  | _, _, none => .error 2

def record : Json.Record Draft KeyMapping where
  title := "struct KeyMapping"
  fields := [
    { name := "key"
      given := fun d => d.key.isSome
      read := fun d cs => do
        let (key, rest) ← HostKey.read cs
        return ({ d with key := some key }, rest) },
    { name := "line"
      given := fun d => d.line.isSome
      read := fun d cs => do
        let (line, rest) ← KeyLine.read cs
        return ({ d with line := some line }, rest) },
    { name := "description"
      given := fun d => d.description.isSome
      read := fun d cs => do
        let (description, rest) ← Json.readString cs
        return ({ d with description := some description }, rest) }]
  blank := {}
  build := Draft.build

def write (m : KeyMapping) : List Char :=
  Json.writeObject [
    ("key", Json.writeNat m.key.code.toNat),
    ("line", Json.writeNat m.line.number.toNat),
    ("description", Json.writeString m.description)]

/-- Reads a mapping from a text that holds nothing else. -/
def ofJson (s : String) : Except Failure KeyMapping :=
  (Json.parse record.read s).mapError .json

def toJson (m : KeyMapping) : String :=
  String.ofList m.write

end KeyMapping

end Chip8Console
