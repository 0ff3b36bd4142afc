import Chip8Console.Rig

/-!
# Routing keys

The router passes key edges on to the machine, as the table that is installed says.  A table is replaced as a whole;
where it has two entries for a key, the first one counts.
-/

namespace Chip8Console

structure Router where
  /-- The lines of the mapped keys, in the order in which the keys came. -/
  table : List (HostKey × KeyLine) := []

namespace Router

def lookup (r : Router) (key : HostKey) : Option KeyLine :=
  r.table.lookup key

/-- Adds a mapping, unless its key is mapped already. -/
def add (r : Router) (m : KeyMapping) : Router × Option Notice :=
  match r.lookup m.key with
  | some line => (r, some (.duplicateKey m.key line m.line m.description))
  | none => ({ table := r.table ++ [(m.key, m.line)] }, none)

def addAll (r : Router) : List KeyMapping → Router × List Notice
  | [] => (r, [])
  | m :: ms =>
    let (r, notice) := r.add m
    let (r, notices) := addAll r ms
    (r, notice.toList ++ notices)

def clear (_ : Router) : Router :=
  {}

def install (r : Router) (ms : List KeyMapping) : Router × List Notice :=
  r.clear.addAll ms

variable {σ : Type} [Machine σ]

/-- A key goes down.  The answer is whether it is mapped. -/
def keyDown (r : Router) (key : HostKey) (rig : Rig σ) : Rig σ × Bool :=
  match r.lookup key with
  | some line => (rig.press line.number, true)
  | none => (rig, false)

/-- A key comes up.  The answer is whether it is mapped. -/
def keyUp (r : Router) (key : HostKey) (rig : Rig σ) : Rig σ × Bool :=
  match r.lookup key with
  | some line => (rig.release line.number, true)
  | none => (rig, false)

def edge (r : Router) (e : KeyEdge) (rig : Rig σ) : Rig σ × Bool :=
  match e with
  | .down key => r.keyDown key rig
  | .up key => r.keyUp key rig

end Router

end Chip8Console
