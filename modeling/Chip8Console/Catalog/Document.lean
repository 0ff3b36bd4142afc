import Chip8Console.Catalog
import Chip8Console.FileTree
import Chip8Console.Keypad.Document

/-!
# Catalogs in JSON

A catalog is written as the list of its programs.  A program has a name and a locator, and perhaps mappings.
-/

namespace Chip8Console

namespace Program

/-- A program of which some fields have been read. -/
structure Draft where
  name : Option String := none
  locator : Option String := none
  mappings : Option (List KeyMapping) := none

/-- The program, or the place of the first field that is missing. -/
def Draft.build (d : Draft) : Except Nat Program :=
  match d.name, d.locator with
  | some name, some locator => .ok { name, locator, mappings := d.mappings.getD [] }
  | none, _ => .error 0
  | _, none => .error 1

def record : Json.Record Draft Program where
  title := "struct ProgramDescriptor"
  fields := [
    { name := "name"
      given := fun d => d.name.isSome
      read := fun d cs => do
        let (name, rest) ← Json.readString cs
        return ({ d with name := some name }, rest) },
    { name := "locator"
      given := fun d => d.locator.isSome
      read := fun d cs => do
        let (locator, rest) ← Json.readString cs
        return ({ d with locator := some locator }, rest) },
    { name := "key_mappings"
      given := fun d => d.mappings.isSome
      read := fun d cs => do
        let (mappings, rest) ← Json.readList KeyMapping.record.read cs
        return ({ d with mappings := some mappings }, rest) }]
  blank := {}
  build := Draft.build

def write (p : Program) : List Char :=
  Json.writeObject [
    ("name", Json.writeString p.name),
    ("locator", Json.writeString p.locator),
    ("key_mappings", Json.writeList (p.mappings.map KeyMapping.write))]

/-- Reads a program from a text that holds nothing else. -/
def ofJson (s : String) : Except Failure Program :=
  (Json.parse record.read s).mapError .json

def toJson (p : Program) : String :=
  String.ofList p.write

end Program

namespace Catalog

def programsJson (programs : List Program) : String :=
  String.ofList (Json.writeList (programs.map Program.write))

def toJson (c : Catalog) : String :=
  programsJson c.programs

def ofJson (s : String) : Except Failure Catalog := do
  let programs ← (Json.parse (Json.readList Program.record.read) s).mapError .json
  ofList programs

def load (tree : FileTree) (path : String) : Except Failure Catalog := do
  let text ← (tree.readText path).mapError .file
  ofJson text

end Catalog

end Chip8Console
