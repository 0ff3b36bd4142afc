import Chip8Console.Settings
import Chip8Console.Terminal.Page

/-!
# The terminal

A terminal shows one page after the other.  To present a page it is drawn on a blank grid and compared with
the page before it; only cells that differ are written, and those next to them on which a wide symbol lay.
Cells that are covered by a wide symbol are left alone.

A terminal has no more than `maxCells` cells; `usableSize` says which part of a larger one is used.
-/

namespace Chip8Console

/-- A terminal, and what it takes to present pages on it. -/
structure Terminal where
  resolution : Resolution
  foreground : Colour
  /-- What can be seen. -/
  shown : Grid
  /-- The page that was presented last. -/
  last : Grid

namespace Terminal

def maxCells : Nat := 65535

/-- The columns and rows that are used of a terminal of `width` by `height` cells: all of them, or the largest
part of the same proportions that has at most `maxCells` cells. -/
def usableSize (width height : Nat) : Nat × Nat :=
  if width * height ≤ maxCells then (width, height)
  else
    let proportion := Float.ofNat width / Float.ofNat height
    let rows := (Float.ofNat maxCells / proportion).sqrt
    ((rows * proportion).toUInt16.toNat, rows.toUInt16.toNat)

/-- A blank terminal of `width` by `height` cells, as far as they are used. -/
def new (width height : Nat) (settings : Settings) : Except Failure Terminal := do
  let foreground ← settings.foregroundColour
  let (width, height) := usableSize width height
  return {
    resolution := settings.resolution
    foreground
    shown := .blank width height
    last := .blank width height }

/-- Writes the cells of the next page that differ from the last one.  Of the cells to come, the first `covered` ones
lie under a symbol of the next page and are left alone; the first `stale` ones may still show a part of a symbol, and
are written in any case. -/
def repaint (covered stale : Nat) : (next last shown : List Cell) → List Cell
  | n :: next, l :: last, s :: shown =>
    (if covered = 0 ∧ (n ≠ l ∨ stale ≠ 0) then n else s)
      :: repaint (n.width - 1) (max (max n.width l.width) stale - 1) next last shown
  | _, _, shown => shown

def draw (t : Terminal) (raster : Raster) (panel : Panel) : Grid :=
  let page := Page.layout t.resolution t.shown.width t.shown.height
  (Grid.blank t.shown.width t.shown.height).drawAll
    (page.strokes t.resolution t.foreground raster panel)

def present (t : Terminal) (raster : Raster) (panel : Panel) : Terminal :=
  let next := t.draw raster panel
  let cells := (repaint 0 0 next.cells.toList t.last.cells.toList t.shown.cells.toList).toArray
  { t with shown := { t.shown with cells }, last := next }

def wipe (t : Terminal) : Terminal :=
  { t with
    shown := .blank t.shown.width t.shown.height
    last := .blank t.shown.width t.shown.height }

end Terminal

end Chip8Console
