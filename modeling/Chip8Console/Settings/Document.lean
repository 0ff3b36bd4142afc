import Chip8Console.Catalog.Document
import Chip8Console.Settings

/-!
# Settings in JSON

Settings are written as an object.  Each field may be left out and then has its default; members of other names are
passed over.
-/

namespace Chip8Console.Settings

/-- Settings of which some fields have been read. -/
structure Draft where
  frameRate : Option Float := none
  refreshRate : Option Float := none
  scale : Option Nat := none
  foreground : Option String := none
  programFolder : Option String := none
  /-- Null is a value too: it asks for the games that come along. -/
  catalogFile : Option (Option String) := none
  keyHold : Option Nat := none
  sound : Option Bool := none

/-- The settings, with defaults for what is missing. -/
def Draft.build (d : Draft) : Settings :=
  let default : Settings := {}
  { frameRate := d.frameRate.getD default.frameRate
    refreshRate := d.refreshRate.getD default.refreshRate
    scale := d.scale.getD default.scale
    foreground := d.foreground.getD default.foreground
    programFolder := d.programFolder.getD default.programFolder
    catalogFile := d.catalogFile.getD default.catalogFile
    keyHold := d.keyHold.getD default.keyHold
    sound := d.sound.getD default.sound }

def record : Json.Record Draft Settings where
  title := "struct Config"
  fields := [
    { name := "frame_rate"
      given := fun d => d.frameRate.isSome
      read := fun d cs => do
        let (rate, rest) ← Json.readDouble cs
        return ({ d with frameRate := some rate }, rest) },
    { name := "refresh_rate"
      given := fun d => d.refreshRate.isSome
      read := fun d cs => do
        let (rate, rest) ← Json.readDouble cs
        return ({ d with refreshRate := some rate }, rest) },
    { name := "scale"
      given := fun d => d.scale.isSome
      read := fun d cs => do
        let (scale, rest) ← Json.readNatBelow UInt64.size "usize" cs
        return ({ d with scale := some scale }, rest) },
    { name := "foreground"
      given := fun d => d.foreground.isSome
      read := fun d cs => do
        let (foreground, rest) ← Json.readString cs
        return ({ d with foreground := some foreground }, rest) },
    { name := "rom_dir"
      given := fun d => d.programFolder.isSome
      read := fun d cs => do
        let (folder, rest) ← Json.readString cs
        return ({ d with programFolder := some folder }, rest) },
    { name := "catalog"
      given := fun d => d.catalogFile.isSome
      read := fun d cs => do
        let (file, rest) ← Json.readString? cs
        return ({ d with catalogFile := some file }, rest) },
    { name := "key_hold_ms"
      given := fun d => d.keyHold.isSome
      read := fun d cs => do
        let (hold, rest) ← Json.readNatBelow UInt64.size "u64" cs
        return ({ d with keyHold := some hold }, rest) },
    { name := "sound"
      given := fun d => d.sound.isSome
      read := fun d cs => do
        let (sound, rest) ← Json.readBool cs
        return ({ d with sound := some sound }, rest) }]
  blank := {}
  build := fun d => .ok d.build

def members (s : Settings) : List (String × List Char) :=
  [("frame_rate", Json.writeDouble s.frameRate),
   ("refresh_rate", Json.writeDouble s.refreshRate),
   ("scale", Json.writeNat s.scale),
   ("foreground", Json.writeString s.foreground),
   ("rom_dir", Json.writeString s.programFolder),
   ("catalog", Json.writeString? s.catalogFile),
   ("key_hold_ms", Json.writeNat s.keyHold),
   ("sound", Json.writeBool s.sound)]

def toJson (s : Settings) : String :=
  String.ofList (Json.writeObject s.members)

/-- Reads settings and refuses those that are out of bounds. -/
def ofJson (text : String) : Except Failure Settings := do
  let settings ← (Json.parse record.read text).mapError .json
  settings.validate
  return settings

def load (tree : FileTree) (path : String) : Except Failure Settings := do
  let text ← (tree.readText path).mapError .file
  ofJson text

def catalog (s : Settings) (tree : FileTree) : Except Failure Catalog :=
  match s.catalogFile with
  | some path => Catalog.load tree path
  | none => .ok .builtin

end Chip8Console.Settings
