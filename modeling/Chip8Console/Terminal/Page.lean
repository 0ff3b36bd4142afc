import Chip8Console.Display.Raster
import Chip8Console.Panel
import Chip8Console.Terminal.Grid

/-!
# Pages

A page is what a terminal shows of a picture and a status panel: two boxes side by side, the picture in the
left one with one cell to a pixel, the lines of the panel in the right one.  The page stands at the top left.
On a terminal that is too small for it the boxes shrink, first the right one; the picture is then
squeezed into what is left, and the lines are cut.
-/

namespace Chip8Console

/-! ## Boxes -/

/-- A box at the top of the grid; its border is part of it. -/
structure Pane where
  left : Nat
  width : Nat
  height : Nat

namespace Pane

def innerWidth (p : Pane) : Nat :=
  p.width - 2

def innerHeight (p : Pane) : Nat :=
  p.height - 2

def columns (p : Pane) : List Nat :=
  List.range' p.left p.width

def rows (p : Pane) : List Nat :=
  List.range p.height

def ground (p : Pane) (inks : Inks) : List Stroke :=
  p.rows.flatMap fun y => p.columns.map fun x => { x, y, symbol := [' '], inks := some inks }

/-- The sides of a box, and after them its corners. -/
def border (p : Pane) : List Stroke :=
  let right := p.left + p.width - 1
  let bottom := p.height - 1
  p.rows.map (fun y => { x := p.left, y, symbol := ['│'] })
    ++ p.columns.map (fun x => { x, y := 0, symbol := ['─'] })
    ++ p.rows.map (fun y => { x := right, y, symbol := ['│'] })
    ++ p.columns.map (fun x => { x, y := bottom, symbol := ['─'] })
    ++ [{ x := right, y := bottom, symbol := ['┘'] }, { x := right, y := 0, symbol := ['┐'] },
      { x := p.left, y := bottom, symbol := ['└'] }, { x := p.left, y := 0, symbol := ['┌'] }]

/-- The title of a box, which stands in the upper side and is cut to it. -/
def title (p : Pane) (text : String) : List Stroke :=
  (text.toList.take p.innerWidth).zipIdx.map fun (c, n) =>
    { x := p.left + 1 + n, y := 0, symbol := [c] }

/-- The outline of a box with its title; a box without columns has none. -/
def outline (p : Pane) (text : String) : List Stroke :=
  if p.width = 0 || p.height = 0 then [] else p.border ++ p.title text

end Pane

/-! ## The picture -/

/-- A canvas of cells, with the bounds of the points that it shows.  The points in the corners of the bounds are shown
in the corner cells. -/
structure Canvas where
  columns : Nat
  rows : Nat
  xBounds : Float × Float
  yBounds : Float × Float

namespace Canvas

/-- The cell of `count` in which a point lies at this distance from the first cell, if the last one is at `extent`. -/
def cellAt (distance extent : Float) (count : Nat) : Nat :=
  (distance * (Float.ofNat count - 1) / extent).toUInt64.toNat

/-- The column and the row in which a point is shown.  Points out of bounds are not shown, and a canvas without cells
shows none. -/
def cell? (c : Canvas) (point : Float × Float) : Option (Nat × Nat) :=
  let (x, y) := point
  let (left, right) := c.xBounds
  let (bottom, top) := c.yBounds
  let width := (right - left).abs
  let height := (top - bottom).abs
  if x < left || right < x || y < bottom || top < y || width == 0 || height == 0 then none
  else
    let column := cellAt (x - left) width c.columns
    let row := cellAt (top - y) height c.rows
    if column < c.columns && row < c.rows then some (column, row) else none

end Canvas

/-- The inside of a box as a canvas for pictures of a resolution. -/
def Pane.canvas (p : Pane) (resolution : Resolution) : Canvas where
  columns := p.innerWidth
  rows := p.innerHeight
  xBounds := resolution.xBounds
  yBounds := resolution.yBounds

/-- The points of a picture in a box. -/
def pictureStrokes (p : Pane) (resolution : Resolution) (foreground : Colour)
    (points : List (Float × Float)) : List Stroke :=
  (points.filterMap (p.canvas resolution).cell?).map fun (column, row) =>
    { x := p.left + 1 + column, y := 1 + row, symbol := ['▄'], inks := some { foreground := .rgb foreground } }

/-! ## The lines -/

/-- The columns that a cluster takes on a line.  A line counts in sixteen bits. -/
def lineWidth (cluster : List Char) : Nat :=
  Text.clusterWidth cluster % 65536

/-- The clusters of a line that have room, each with its column.  A cluster that is wider than the room is left out;
the first one that does not fit any more ends the line. -/
def fit (room : Nat) : Nat → List (List Char) → List (Nat × List Char)
  | _, [] => []
  | column, cluster :: rest =>
    let width := lineWidth cluster
    if room < width then fit room column rest
    else if room < column + width then []
    else (column, cluster) :: fit room (column + width) rest

/-- The clusters of a line.  Line feeds are dropped. -/
def lineClusters (line : String) : List (List Char) :=
  (Text.clusters line.toList).filter (· ≠ ['\n'])

def lineStrokes (p : Pane) (line : String) (row : Nat) : List Stroke :=
  if p.innerWidth = 0 then []
  else (fit p.innerWidth 0 (lineClusters line)).map fun (column, cluster) =>
    { x := p.left + 1 + column, y := 1 + row, symbol := cluster }

def textStrokes (p : Pane) (lines : List String) : List Stroke :=
  (lines.take p.innerHeight).zipIdx.flatMap fun (line, row) => lineStrokes p line row

/-! ## The page -/

def statusWidth : Nat := 32

structure Page where
  canvas : Pane
  status : Pane

namespace Page

/-- The boxes for a picture of a resolution on a terminal of `width` by `height` cells. -/
def layout (resolution : Resolution) (width height : Nat) : Page :=
  let width := min width (2 + resolution.width + statusWidth)
  let height := min height (2 + resolution.height)
  let canvas := min width (2 + resolution.width)
  { canvas := { left := 0, width := canvas, height }
    status := { left := canvas, width := width - canvas, height } }

/-- Everything on a page, in the order of drawing. -/
def strokes (page : Page) (resolution : Resolution) (foreground : Colour) (raster : Raster)
    (panel : Panel) : List Stroke :=
  page.canvas.ground { background := .black }
    ++ page.canvas.outline "CHIP-8"
    ++ pictureStrokes page.canvas resolution foreground raster.litPoints
    ++ page.status.outline "Status"
    ++ textStrokes page.status panel.lines

end Page

end Chip8Console
