import Chip8Console.Keypad

/-!
# Programs and their catalog

A catalog is the fixed, ordered set of programs that the player goes through.  It holds at least one program, and
going forward from the last leads to the first, as going back from the first leads to the last.
-/

namespace Chip8Console

structure Program where
  /-- Shown while the program is active. -/
  name : String
  /-- What the program is fetched by. -/
  locator : String
  mappings : List KeyMapping
deriving DecidableEq

/-- The programs to choose from, of which there is at least one. -/
structure Catalog where
  first : Program
  others : List Program
deriving DecidableEq

namespace Catalog

def programs (c : Catalog) : List Program :=
  c.first :: c.others

def ofList : List Program → Except Failure Catalog
  | [] => .error (.settings .emptyCatalog)
  | first :: others => .ok { first, others }

theorem ofList_programs (c : Catalog) : ofList c.programs = .ok c := rfl

def size (c : Catalog) : Nat :=
  c.programs.length

theorem size_pos (c : Catalog) : 0 < c.size := by
  simp [size, programs]

def get? (c : Catalog) (index : Nat) : Option Program :=
  c.programs[index]?

/-- The program at a place of the catalog; off its end, the first. -/
def get (c : Catalog) (index : Nat) : Program :=
  (c.get? index).getD c.first

/-- The place after `index`; after the last, the first. -/
def next (c : Catalog) (index : Nat) : Nat :=
  if c.size ≤ index + 1 then 0 else index + 1

/-- The place before `index`; before the first, the last. -/
def prev (c : Catalog) (index : Nat) : Nat :=
  if index = 0 ∨ c.size < index then c.size - 1 else index - 1

theorem next_lt (c : Catalog) (index : Nat) : c.next index < c.size := by
  have positive := c.size_pos
  unfold next
  split <;> omega

theorem prev_lt (c : Catalog) (index : Nat) : c.prev index < c.size := by
  have positive := c.size_pos
  unfold prev
  split <;> omega

/-! ## The games that come along -/

/-- A line of a mapping below. -/
def bind (key : UInt32) (line : UInt8) (description : String)
    (h : line.toNat < keypadLines := by decide) : KeyMapping :=
  { key := ⟨key⟩, line := ⟨line, h⟩, description }

def builtin : Catalog where
  first := {
    name := "Ufo"
    locator := "UFO.ch8"
    mappings := [
      bind 81 0x4 "Q - Shoot left",
      bind 87 0x5 "W - Shoot up",
      bind 69 0x6 "E - Shoot right"] }
  others := [
    { name := "Pong"
      locator := "PONG2.ch8"
      mappings := [
        bind 65 0x1 "A - Left paddle up",
        bind 90 0x4 "Z - Left paddle down",
        bind 75 0xc "K - Right paddle up",
        bind 77 0xd "M - Right paddle down"] },
    { name := "Brix"
      locator := "BRIX.ch8"
      mappings := [
        bind 37 0x4 "Arrow Left - Move left",
        bind 39 0x6 "Arrow Right - Move right"] },
    { name := "Tetris"
      locator := "TETRIS.ch8"
      mappings := [
        bind 37 0x5 "Arrow Left - Move left",
        bind 39 0x6 "Arrow Right - Move right",
        bind 40 0x7 "Arrow Down - Drop",
        bind 32 0x4 "Space - Rotate"] }]

end Catalog

end Chip8Console
