import Chip8Console.Display.Resolution
import Chip8Console.Display.Surface

/-!
# Rasters

A raster is a surface that keeps its picture: one cell after the other, row by row, each either a colour or the
background.  Squares that reach over the right or the lower edge are clipped.

`litPixels` lists the logical pixels that show a colour.
-/

namespace Chip8Console

/-- A picture of `resolution.surfaceWidth` by `resolution.surfaceHeight` cells. -/
structure Raster where
  resolution : Resolution
  /-- The cells row by row; `none` is background. -/
  cells : Array (Option Colour)

namespace Raster

def empty (resolution : Resolution) : Raster where
  resolution
  cells := Array.replicate (resolution.surfaceWidth * resolution.surfaceHeight) none

def width (r : Raster) : Nat :=
  r.resolution.surfaceWidth

def height (r : Raster) : Nat :=
  r.resolution.surfaceHeight

/-- The colour at a point, or `none` for background and for points off the raster. -/
def get? (r : Raster) (x y : Nat) : Option Colour :=
  if r.width ≤ x then none else (r.cells[y * r.width + x]?).join

/-! ## Painting -/

def fillRow {α : Type} (value : α) : Nat → Array α → Nat → Array α
  | 0, cells, _ => cells
  | count + 1, cells, start => fillRow value count (cells.setIfInBounds start value) (start + 1)

/-- Sets `count` cells from `start` on in each of a number of rows that lie `width` cells apart. -/
def fillRows {α : Type} (value : α) (width count : Nat) : Nat → Array α → Nat → Array α
  | 0, cells, _ => cells
  | rows + 1, cells, start =>
    fillRows value width count rows (fillRow value count cells start) (start + width)

/-- Sets the cells of a square, as far as it lies on the raster. -/
def paint (r : Raster) (x y side : Nat) (value : Option Colour) : Raster :=
  match r with
  | ⟨resolution, cells⟩ =>
    let width := resolution.surfaceWidth
    if width ≤ x then ⟨resolution, cells⟩
    else
      let columns := min (x + side) width - x
      let rows := min (y + side) resolution.surfaceHeight - y
      ⟨resolution, fillRows value width columns rows cells (y * width + x)⟩

instance : Surface Raster where
  fillSquare r x y side colour := r.paint x y side (some colour)
  clearSquare r x y side := r.paint x y side none

@[simp] theorem size_fillRow {α : Type} (value : α) (count : Nat) (cells : Array α) (start : Nat) :
    (fillRow value count cells start).size = cells.size := by
  induction count generalizing cells start with
  | zero => rfl
  | succ count ih => simp [fillRow, ih]

@[simp] theorem size_fillRows {α : Type} (value : α) (width count rows : Nat) (cells : Array α)
    (start : Nat) : (fillRows value width count rows cells start).size = cells.size := by
  induction rows generalizing cells start with
  | zero => rfl
  | succ rows ih => simp [fillRows, ih]

@[simp] theorem resolution_paint (r : Raster) (x y side : Nat) (value : Option Colour) :
    (r.paint x y side value).resolution = r.resolution := by
  cases r
  simp only [paint]
  split <;> rfl

/-- Painting neither adds nor removes cells. -/
@[simp] theorem size_cells_paint (r : Raster) (x y side : Nat) (value : Option Colour) :
    (r.paint x y side value).cells.size = r.cells.size := by
  cases r
  simp only [paint]
  split <;> simp

/-! ## Sampling -/

/-- Whether a logical pixel shows a colour, judged by the top left cell of its square. -/
def isLit (r : Raster) (column row : Nat) : Bool :=
  (r.get? (column * r.resolution.scale) (row * r.resolution.scale)).isSome

/-- The column and row of each logical pixel that shows a colour, row by row. -/
def litPixels (r : Raster) : List (Nat × Nat) :=
  (List.range r.resolution.pixelCount).filterMap fun index =>
    let column := index % r.resolution.width
    let row := index / r.resolution.width
    if r.isLit column row then some (column, row) else none

/-- A pixel as a point of the canvas, which grows downward from zero. -/
def canvasPoint (pixel : Nat × Nat) : Float × Float :=
  (Float.ofNat pixel.1, -1 * Float.ofNat pixel.2)

def litPoints (r : Raster) : List (Float × Float) :=
  r.litPixels.map canvasPoint

end Raster

end Chip8Console
