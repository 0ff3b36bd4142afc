import Chip8Console.Terminal

/-! # Repainting

A page is compared with the page before it and not with what can be seen, and the cell behind a wide symbol is left
alone.  So a cell may show something that is not on the page, and a later page has to put it right without looking.
`Terminal.Tracks` says how far what can be seen agrees with a page: everywhere, but for the cells right behind a wide
symbol of the page.  Repainting keeps it for the next page (`Tracks.repaint`), hence it holds after any number of
pages (`Settled.run`), and a cell behind a narrow one shows what is on the page (`Settled.get?_present`).
-/

namespace Chip8Console

namespace Grid

@[simp] theorem width_drawAll (g : Grid) (strokes : List Stroke) : (g.drawAll strokes).width = g.width := by
  induction strokes generalizing g with
  | nil => rfl
  | cons stroke strokes ih => simp [ih]

@[simp] theorem size_cells_drawAll (g : Grid) (strokes : List Stroke) :
    (g.drawAll strokes).cells.size = g.cells.size := by
  induction strokes generalizing g with
  | nil => rfl
  | cons stroke strokes ih => simp [ih]

end Grid

namespace Terminal

/-! ## A page and what can be seen -/

/-- The cells of a page, and what can be seen in their place: the same, but for cells behind a wide symbol of the page.
The cell before the first one takes `before` columns. -/
inductive Tracks : (before : Nat) → (page shown : List Cell) → Prop
  | nil {before : Nat} : Tracks before [] []
  | cons {before : Nat} {cell seen : Cell} {page shown : List Cell} :
      (before ≤ 1 → seen = cell) → Tracks cell.width page shown → Tracks before (cell :: page) (seen :: shown)

namespace Tracks

variable {before : Nat} {page shown : List Cell}

theorem length (tracks : Tracks before page shown) : shown.length = page.length := by
  induction tracks with
  | nil => rfl
  | cons _ _ ih => simp [ih]

theorem same (before : Nat) (page : List Cell) : Tracks before page page := by
  induction page generalizing before with
  | nil => exact .nil
  | cons cell page ih => exact .cons (fun _ => rfl) (ih cell.width)

theorem getElem?_succ (tracks : Tracks before page shown) (i : Nat)
    (narrow : ∀ cell, page[i]? = some cell → cell.width ≤ 1) : shown[i + 1]? = page[i + 1]? := by
  induction tracks generalizing i with
  | nil => rfl
  | cons _ rest ih =>
    cases i with
    | succ i => simpa using ih i (by simpa using narrow)
    | zero =>
      cases rest with
      | nil => rfl
      | cons agrees _ => simp [agrees (narrow _ rfl)]

/-- What the next page leaves alone because of a wide symbol may differ from it.  What the last page left alone may show
anything, but it is stale and written again. -/
theorem repaint (tracks : Tracks before page shown) {next : List Cell} (aligned : next.length = page.length)
    {covered stale under : Nat} (written : 1 < before → stale ≠ 0) (hidden : covered ≠ 0 → 1 < under) :
    Tracks under next (repaint covered stale next page shown) := by
  induction tracks generalizing next covered stale under with
  | nil =>
    cases next with
    | nil => exact .nil
    | cons cell next => simp at aligned
  | cons agrees _ ih =>
    cases next with
    | nil => simp at aligned
    | cons new next =>
      apply Tracks.cons
      · intro narrow
        have bare : covered = 0 := by
          apply Classical.byContradiction
          intro hides
          exact Nat.not_lt.mpr narrow (hidden hides)
        -- A cell that is left as it is belongs to both pages, and it showed the last one.
        split
        · rfl
        · next spared =>
          simp only [bare, true_and, not_or, Decidable.not_not] at spared
          obtain ⟨rfl, fresh⟩ := spared
          apply agrees
          apply Nat.le_of_not_lt
          intro wide
          exact written wide fresh
      · apply ih (by simpa using aligned)
        · omega
        · omega

end Tracks

/-! ## One page after the other -/

variable {t : Terminal}

/-- A terminal with all its cells, on which the last page can be seen. -/
structure Settled (t : Terminal) : Prop where
  full : t.shown.cells.size = t.shown.width * t.shown.height
  tracks : Tracks 0 t.last.cells.toList t.shown.cells.toList

/-- What a terminal can be told to do. -/
inductive Order where
  | present (raster : Raster) (panel : Panel)
  | wipe

def obey (t : Terminal) : Order → Terminal
  | .present raster panel => t.present raster panel
  | .wipe => t.wipe

def run (t : Terminal) (orders : List Order) : Terminal :=
  orders.foldl obey t

theorem size_draw (t : Terminal) (raster : Raster) (panel : Panel) :
    (t.draw raster panel).cells.size = t.shown.width * t.shown.height := by
  simp [draw, Grid.blank]

theorem settled_blank (resolution : Resolution) (foreground : Colour) (width height : Nat) :
    Settled ⟨resolution, foreground, .blank width height, .blank width height⟩ where
  full := by simp [Grid.blank]
  tracks := .same _ _

theorem Settled.present (settled : t.Settled) (raster : Raster) (panel : Panel) :
    (t.present raster panel).Settled := by
  have aligned : (t.draw raster panel).cells.toList.length = t.last.cells.toList.length := by
    rw [← settled.tracks.length, Array.length_toList, Array.length_toList, size_draw, settled.full]
  have tracks : Tracks 0 (t.draw raster panel).cells.toList
      (repaint 0 0 (t.draw raster panel).cells.toList t.last.cells.toList t.shown.cells.toList) :=
    settled.tracks.repaint aligned (by simp) (by simp)
  constructor
  · simpa [Terminal.present, size_draw] using tracks.length
  · simpa [Terminal.present] using tracks

theorem Settled.obey (settled : t.Settled) (order : Order) : (t.obey order).Settled := by
  cases order with
  | present raster panel => exact settled.present raster panel
  | wipe => exact settled_blank _ _ _ _

theorem Settled.run (settled : t.Settled) (orders : List Order) : (t.run orders).Settled := by
  induction orders generalizing t with
  | nil => exact settled
  | cons order orders ih => exact ih (settled.obey order)

/-- What a terminal is does not change with what it shows. -/
theorem run_shape (t : Terminal) (orders : List Order) :
    (t.run orders).resolution = t.resolution ∧ (t.run orders).foreground = t.foreground ∧
      (t.run orders).shown.width = t.shown.width ∧ (t.run orders).shown.height = t.shown.height := by
  induction orders generalizing t with
  | nil => simp [run]
  | cons order orders ih =>
    have step := ih (t.obey order)
    cases order with
    | present raster panel => exact step
    | wipe => exact step

/-- Behind a narrow symbol of the page that is presented, its next cell can be seen, whatever was shown before. -/
theorem Settled.get?_present (settled : t.Settled) {raster : Raster} {panel : Panel} {x y : Nat}
    (narrow : ∀ cell, (t.draw raster panel).get? x y = some cell → cell.width ≤ 1) :
    (t.present raster panel).shown.get? (1 + x) y = (t.draw raster panel).get? (1 + x) y := by
  have width : (t.present raster panel).shown.width = (t.draw raster panel).width := by
    simp [Terminal.present, draw, Grid.blank]
  unfold Grid.get?
  rw [width, Nat.add_comm 1]
  by_cases off : (t.draw raster panel).width ≤ x + 1
  · simp [off]
  · have here : ¬ (t.draw raster panel).width ≤ x := by omega
    have next := (settled.present raster panel).tracks.getElem?_succ (y * (t.draw raster panel).width + x)
      (by simpa [Terminal.present, Grid.get?, here] using narrow)
    simpa [off, Terminal.present, Nat.add_assoc] using next

end Terminal

end Chip8Console
