import Chip8Console.Colour
import Chip8Console.Text.Cluster
import Chip8Console.Text.ClusterWidth

/-!
# Grids of cells

What a terminal shows is a grid of cells.  Each cell holds one cluster of characters in two colours; a
cluster that takes two columns stands in the first of its cells and leaves the second one blank.

Everything is drawn in strokes, one cell at a time, and a stroke off the grid does nothing.  `Grid.get?` is
the view of a grid: `get?_draw` says what a stroke does to it.
-/

namespace Chip8Console

inductive Ink where
  /-- Whatever the terminal has. -/
  | usual
  | black
  | rgb (colour : Colour)
deriving DecidableEq

structure Inks where
  foreground : Ink := .usual
  background : Ink := .usual
deriving DecidableEq

structure Cell where
  symbol : List Char := [' ']
  inks : Inks := {}
deriving DecidableEq

namespace Cell

def blank : Cell := {}

def width (c : Cell) : Nat :=
  Text.clusterWidth c.symbol

end Cell

/-- A symbol for a cell, in colours of its own or in those that the cell has. -/
structure Stroke where
  x : Nat
  y : Nat
  symbol : List Char
  inks : Option Inks := none

def Cell.draw (c : Cell) (s : Stroke) : Cell where
  symbol := s.symbol
  inks := s.inks.getD c.inks

structure Grid where
  width : Nat
  height : Nat
  cells : Array Cell

namespace Grid

def blank (width height : Nat) : Grid where
  width
  height
  cells := Array.replicate (width * height) .blank

def get? (g : Grid) (x y : Nat) : Option Cell :=
  if g.width ≤ x then none else g.cells[y * g.width + x]?

def draw (g : Grid) (s : Stroke) : Grid :=
  match g with
  | ⟨width, height, cells⟩ =>
    if width ≤ s.x then ⟨width, height, cells⟩
    else ⟨width, height, cells.modify (s.y * width + s.x) (·.draw s)⟩

def drawAll (g : Grid) (strokes : List Stroke) : Grid :=
  strokes.foldl draw g

/-- Two cells of a row-by-row grid have the same index only if they are the same cell. -/
theorem index_inj {width x y x' y' : Nat} (hx : x < width) (hx' : x' < width) :
    y * width + x = y' * width + x' ↔ x = x' ∧ y = y' := by
  constructor
  · intro h
    have hy : y = y' := by
      have quotient := congrArg (· / width) h
      have pos : 0 < width := by omega
      simpa [Nat.mul_comm _ width, Nat.mul_add_div pos, Nat.div_eq_of_lt hx,
        Nat.div_eq_of_lt hx'] using quotient
    subst hy
    exact ⟨by omega, rfl⟩
  · rintro ⟨rfl, rfl⟩
    rfl

/-- A stroke changes the cell that it is drawn in and no other. -/
theorem get?_draw (g : Grid) (s : Stroke) (x y : Nat) :
    (g.draw s).get? x y =
      if x = s.x ∧ y = s.y then (g.get? x y).map (·.draw s) else g.get? x y := by
  obtain ⟨width, height, cells⟩ := g
  by_cases hs : width ≤ s.x
  · by_cases hx : width ≤ x
    · simp [draw, get?, hs, hx]
    · have : x ≠ s.x := by omega
      simp [draw, get?, hs, this]
  · by_cases hx : width ≤ x
    · simp [draw, get?, hs, hx]
    · simp only [draw, get?, hs, hx, if_false, Array.getElem?_modify,
        index_inj (Nat.lt_of_not_le hs) (Nat.lt_of_not_le hx)]
      by_cases h : x = s.x ∧ y = s.y
      · simp [h]
      · have h' : ¬(s.x = x ∧ s.y = y) := fun e => h ⟨e.1.symm, e.2.symm⟩
        simp [h, h']

@[simp] theorem drawAll_nil (g : Grid) : g.drawAll [] = g := rfl

@[simp] theorem drawAll_cons (g : Grid) (s : Stroke) (strokes : List Stroke) :
    g.drawAll (s :: strokes) = (g.draw s).drawAll strokes := rfl

theorem drawAll_append (g : Grid) (first second : List Stroke) :
    g.drawAll (first ++ second) = (g.drawAll first).drawAll second :=
  List.foldl_append

@[simp] theorem width_draw (g : Grid) (s : Stroke) : (g.draw s).width = g.width := by
  cases g
  simp only [draw]
  split <;> rfl

@[simp] theorem height_draw (g : Grid) (s : Stroke) : (g.draw s).height = g.height := by
  cases g
  simp only [draw]
  split <;> rfl

/-- A stroke neither adds nor removes cells. -/
@[simp] theorem size_cells_draw (g : Grid) (s : Stroke) :
    (g.draw s).cells.size = g.cells.size := by
  cases g
  simp only [draw]
  split <;> simp

end Grid

end Chip8Console
