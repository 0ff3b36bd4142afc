import Chip8Console.Colour

/-!
# Surfaces

What squares of cells can be painted onto.  `SquareLog` is a surface that keeps no picture but remembers which
squares it was asked to paint.
-/

namespace Chip8Console

/-- Something that squares can be painted onto.  A square is given by its top left cell and its side. -/
class Surface (s : Type) where
  fillSquare : s → (x y side : Nat) → Colour → s
  clearSquare : s → (x y side : Nat) → s

structure Square where
  x : Nat
  y : Nat
  side : Nat
deriving DecidableEq

/-- The squares that were painted, each kind in the order of painting. -/
structure SquareLog where
  filled : Array Square := #[]
  cleared : Array Square := #[]

instance : Surface SquareLog where
  fillSquare log x y side _ := { log with filled := log.filled.push { x, y, side } }
  clearSquare log x y side := { log with cleared := log.cleared.push { x, y, side } }

end Chip8Console
