import Chip8Console.Proofs.Display.Squares

/-! # Painting squares within bounds

A raster is one row of cells after the other, and a square is painted as a stretch of each row that it meets.  Where
a stretch went too far it would run on into the next row, or past the last cell.

`Raster.paint?` paints with the numbers that memory is addressed with: every sum and product must be a word, every
stretch must lie within the cells, and otherwise nothing comes of it.  Where the cells can be addressed at all it
always succeeds, and paints what `Raster.paint` does (`Raster.paint?_eq`).  What changes are the points of the square
that are on the raster, and no others (`squares_clipped_at_edges`).
-/

namespace Chip8Console

/-! ## Words and stretches -/

/-- A number, unless it is too large for a word. -/
def word? (n : Nat) : Option Nat :=
  if n < UInt64.size then some n else none

theorem word?_of_lt {n : Nat} (fits : n < UInt64.size) : word? n = some n :=
  if_pos fits

theorem word?_eq_some_iff {n m : Nat} : word? n = some m ↔ n < UInt64.size ∧ n = m := by
  rw [word?, Option.ite_none_right_eq_some, Option.some.injEq]

theorem word?_of_le {n : Nat} (large : UInt64.size ≤ n) : word? n = none :=
  if_neg (Nat.not_lt.mpr large)

/-- Both far edges of the square can be numbered with words. -/
structure Square.Numbered (q : Square) : Prop where
  right : q.x + q.side < UInt64.size
  lower : q.y + q.side < UInt64.size

namespace Raster

/-- Fills the cells from `start` up to `stop`, which must be a stretch of the cells that there are. -/
def fillStretch? {α : Type} (value : α) (cells : Array α) (start stop : Nat) : Option (Array α) :=
  if start ≤ stop ∧ stop ≤ cells.size then some (fillRow value (stop - start) cells start) else none

/-- Fills the columns from `left` up to `right` of a row. -/
def fillRow? {α : Type} (value : α) (width left right : Nat) (cells : Array α) (row : Nat) : Option (Array α) := do
  let place ← word? (row * width)
  fillStretch? value cells (← word? (place + left)) (← word? (place + right))

/-- Sets the cells of a square, as far as it lies on the raster, with words and within the cells. -/
def paint? (r : Raster) (x y side : Nat) (value : Option Colour) : Option Raster := do
  let width ← word? r.width
  if width ≤ x then return r
  let right ← word? (x + side)
  let lower ← word? (y + side)
  let height ← word? r.height
  let rows := List.range' y (min lower height - y)
  let cells ← rows.foldlM (fillRow? value width x (min right width)) r.cells
  return { r with cells }

/-- What `get?` gives, with words.  For a point far below the raster the place may be none. -/
def look? (r : Raster) (x y : Nat) : Option (Option Colour) := do
  let width ← word? r.width
  if width ≤ x then return none
  let place ← word? ((← word? (y * width)) + x)
  return r.cells[place]?.join

/-- A raster that has all its cells, its columns, rows and cells being as many as words can number. -/
structure Addressable (r : Raster) : Prop where
  full : r.Full
  width : r.width < UInt64.size
  height : r.height < UInt64.size
  size : r.cells.size < UInt64.size

theorem Addressable.paint {r : Raster} (addressable : r.Addressable) (x y side : Nat) (value : Option Colour) :
    (r.paint x y side value).Addressable where
  full := addressable.full.paint x y side value
  width := by simpa [Raster.width] using addressable.width
  height := by simpa [Raster.height] using addressable.height
  size := by simpa using addressable.size

/-- The empty raster of a resolution, with words. -/
def empty? (resolution : Resolution) : Option Raster := do
  let width ← word? resolution.surfaceWidth
  let height ← word? resolution.surfaceHeight
  let count ← word? (width * height)
  return { resolution, cells := Array.replicate count none }

/-- To begin with, a raster that can be made at all is addressable. -/
theorem empty?_eq_some_iff {resolution : Resolution} {r : Raster} :
    empty? resolution = some r ↔ r = empty resolution ∧ r.Addressable := by
  simp only [empty?, Option.bind_eq_bind, Option.bind_eq_some_iff, word?_eq_some_iff]
  constructor
  · rintro ⟨_, ⟨width, rfl⟩, _, ⟨height, rfl⟩, _, ⟨size, rfl⟩, made⟩
    obtain rfl : empty resolution = r := Option.some.inj made
    have full := full_empty resolution
    exact ⟨rfl, full, width, height, by rwa [full]⟩
  · rintro ⟨rfl, full, width, height, size⟩
    rw [full] at size
    exact ⟨_, ⟨width, rfl⟩, _, ⟨height, rfl⟩, _, ⟨size, rfl⟩, rfl⟩

/-! ## Row by row -/

section

variable {α : Type} {cells : Array α} {width left right : Nat}

theorem fillRow?_eq (value : α) (ordered : left ≤ right) (fits : right ≤ width) {row : Nat}
    (inside : (row + 1) * width ≤ cells.size) (words : cells.size < UInt64.size) :
    fillRow? value width left right cells row = some (fillRow value (right - left) cells (row * width + left)) := by
  -- The stretch ends where the row ends, at the latest.
  rw [Nat.succ_mul] at inside
  have stretch : row * width + left ≤ row * width + right ∧ row * width + right ≤ cells.size := by omega
  have count : row * width + right - (row * width + left) = right - left := by omega
  unfold fillRow? fillStretch?
  rw [word?_of_lt (by omega), Option.bind_eq_bind, Option.bind_some, word?_of_lt (by omega), word?_of_lt (by omega)]
  simp only [Option.bind_some, if_pos stretch, count]

theorem foldlM_fillRow? (value : α) (ordered : left ≤ right) (fits : right ≤ width) (rows : Nat) {row : Nat}
    (inside : ∀ i < rows, (row + i + 1) * width ≤ cells.size) (words : cells.size < UInt64.size) :
    (List.range' row rows).foldlM (fillRow? value width left right) cells =
      some (fillRows value width (right - left) rows cells (row * width + left)) := by
  induction rows generalizing cells row with
  | zero => rfl
  | succ rows ih =>
    have next : row * width + left + width = (row + 1) * width + left := by
      rw [Nat.succ_mul, Nat.add_right_comm]
    rw [List.range'_succ, List.foldlM_cons, fillRow?_eq value ordered fits (inside 0 (Nat.succ_pos rows)) words,
      fillRows, next]
    refine ih ?_ (by rwa [size_fillRow])
    intro i later
    rw [size_fillRow, Nat.add_assoc row, Nat.add_comm 1]
    exact inside (i + 1) (Nat.succ_lt_succ later)

end

/-- No number on the way is too large, and no stretch goes beyond the cells. -/
theorem paint?_eq {r : Raster} (addressable : r.Addressable) {x y side : Nat} (right : x + side < UInt64.size)
    (lower : y + side < UInt64.size) (value : Option Colour) :
    r.paint? x y side value = some (r.paint x y side value) := by
  obtain ⟨resolution, cells⟩ := r
  obtain ⟨full, width, height, size⟩ := addressable
  simp only [Full, Raster.width, Raster.height] at full width height size
  simp only [paint?, paint, Raster.width, Raster.height, word?_of_lt width, word?_of_lt height, word?_of_lt right,
    word?_of_lt lower, Option.bind_eq_bind, Option.bind_some]
  by_cases off : resolution.surfaceWidth ≤ x
  · rw [if_pos off, if_pos off]
    rfl
  · rw [if_neg off, if_neg off, foldlM_fillRow? value (by omega) (Nat.min_le_right ..) _ _ size]
    · rfl
    · intro i among
      -- A row that is filled lies above the lower edge.
      have row : y + i + 1 ≤ resolution.surfaceHeight := by omega
      rw [full, Nat.mul_comm resolution.surfaceWidth]
      exact Nat.mul_le_mul_right _ row

-- A raster that lacks its last cell cannot be painted up to the edge.
example : (Raster.mk ⟨2, 1, 1⟩ #[none]).paint? 0 0 2 none = none := rfl

theorem look?_eq {r : Raster} (width : r.width < UInt64.size) (x y : Nat) :
    r.look? x y = if x < r.width ∧ UInt64.size ≤ y * r.width + x then none else some (r.get? x y) := by
  unfold look? get?
  rw [word?_of_lt width, Option.bind_eq_bind, Option.bind_some]
  by_cases off : r.width ≤ x
  · rw [if_pos off, if_pos off, if_neg (by omega)]
    rfl
  · rw [if_neg off, if_neg off]
    by_cases large : UInt64.size ≤ y * r.width + x
    · rw [if_pos ⟨by omega, large⟩]
      by_cases row : UInt64.size ≤ y * r.width
      · rw [word?_of_le row]
        rfl
      · rw [word?_of_lt (by omega), Option.bind_some, word?_of_le large]
        rfl
    · rw [if_neg (by omega), word?_of_lt (by omega), Option.bind_some, word?_of_lt (by omega)]
      rfl

/-! ## Points on the raster and off it -/

theorem Full.get?_eq_none {r : Raster} (full : r.Full) {px py : Nat} (off : ¬ (px < r.width ∧ py < r.height)) :
    r.get? px py = none := by
  by_cases column : px < r.width
  · have below : r.height * r.width ≤ py * r.width := Nat.mul_le_mul_right _ (by omega)
    rw [get?_of_lt r column, Array.getElem?_eq_none, Option.join_none]
    rw [full, Nat.mul_comm]
    omega
  · rw [get?, if_pos (Nat.le_of_not_lt column)]

end Raster

/-! ## Filling and clearing -/

/-- What the points of the square are to show. -/
def SurfaceCall.value : SurfaceCall → Option Colour
  | .fill _ colour => some colour
  | .clear _ => none

namespace Raster

/-- Obeys a call with words and within the cells. -/
def obey? (r : Raster) (call : SurfaceCall) : Option Raster :=
  r.paint? call.square.x call.square.y call.square.side call.value

theorem obey_eq_paint (r : Raster) (call : SurfaceCall) :
    Surface.obey r call = r.paint call.square.x call.square.y call.square.side call.value := by
  cases call <;> rfl

variable {r : Raster} {call : SurfaceCall}

@[simp] theorem resolution_obey : (Surface.obey r call).resolution = r.resolution := by
  rw [obey_eq_paint, resolution_paint]

@[simp] theorem width_obey : (Surface.obey r call).width = r.width := by
  rw [Raster.width, resolution_obey, Raster.width]

@[simp] theorem height_obey : (Surface.obey r call).height = r.height := by
  rw [Raster.height, resolution_obey, Raster.height]

theorem Full.obey (full : r.Full) : (Surface.obey r call).Full := by
  rw [obey_eq_paint]
  exact full.paint ..

theorem Addressable.obey (addressable : r.Addressable) : (Surface.obey r call).Addressable := by
  rw [obey_eq_paint]
  exact addressable.paint ..

theorem obey?_eq (addressable : r.Addressable) (numbered : call.square.Numbered) :
    r.obey? call = some (Surface.obey r call) := by
  rw [obey_eq_paint]
  exact paint?_eq addressable numbered.right numbered.lower call.value

theorem get?_obey (full : r.Full) (px py : Nat) :
    (Surface.obey r call).get? px py =
      if call.square.Covers px py ∧ px < r.width ∧ py < r.height then call.value else r.get? px py := by
  by_cases inside : px < r.width ∧ py < r.height
  · rw [obey_eq_paint, get?_paint full _ _ _ _ inside.1 inside.2]
    simp only [Square.Covers, inside, and_true]
  · have inside' : ¬ (px < (Surface.obey r call).width ∧ py < (Surface.obey r call).height) := by simpa using inside
    rw [if_neg fun hit => inside hit.2, full.get?_eq_none inside, full.obey.get?_eq_none inside']

theorem look?_obey (addressable : r.Addressable) (px py : Nat) :
    (Surface.obey r call).look? px py =
      if call.square.Covers px py ∧ px < r.width ∧ py < r.height then some call.value else r.look? px py := by
  rw [look?_eq addressable.obey.width, look?_eq addressable.width, get?_obey addressable.full, width_obey]
  by_cases hit : call.square.Covers px py ∧ px < r.width ∧ py < r.height
  · -- A point on the raster has a cell, and cells are numbered with words.
    have place := addressable.full.place_lt hit.2.1 hit.2.2
    have size := addressable.size
    rw [if_pos hit, if_pos hit, if_neg (by omega)]
  · rw [if_neg hit, if_neg hit]

theorem obey_obey (full : r.Full) {again : SurfaceCall} (same : again.square = call.square) :
    Surface.obey (Surface.obey r call) again = Surface.obey r again := by
  refine full.obey.obey.ext_get? full.obey (by simp only [resolution_obey]) ?_
  intro px py _ _
  rw [get?_obey full.obey, get?_obey full, get?_obey full, width_obey, height_obey, same]
  split
  · rfl
  · rfl

/-- Any number of squares can be painted one after the other. -/
theorem foldlM_obey? (addressable : r.Addressable) (calls : List SurfaceCall)
    (numbered : ∀ call ∈ calls, call.square.Numbered) : calls.foldlM obey? r = some (Surface.after r calls) := by
  induction calls generalizing r with
  | nil => rfl
  | cons call calls ih =>
    rw [List.foldlM_cons, obey?_eq addressable (numbered call List.mem_cons_self)]
    exact ih addressable.obey fun later among => numbered later (List.mem_cons_of_mem call among)

end Raster

/-- A frame is drawn without leaving the cells, also onto a raster of another resolution. -/
theorem Renderer.foldlM_calls {r : Renderer} (width : r.resolution.surfaceWidth < UInt64.size)
    (height : r.resolution.surfaceHeight < UInt64.size) {raster : Raster} (addressable : raster.Addressable)
    (pixels : List UInt8) :
    (r.calls pixels).foldlM Raster.obey? raster = some (r.render pixels raster).1 := by
  rw [r.render_eq_after]
  refine Raster.foldlM_obey? addressable _ fun call among => ?_
  by_cases complete : pixels.length = r.resolution.pixelCount
  · have within := calls_within complete among
    exact ⟨Nat.lt_of_le_of_lt within.1 width, Nat.lt_of_le_of_lt within.2 height⟩
  · rw [calls_of_wrong_length complete] at among
    cases among

/-- What a square changes are the points of it that lie on the raster, and nothing else, wherever the square begins and
however far it reaches.  No number on the way is larger than a word, no cell beyond the last one is touched, and what
the square has been painted with before does not matter. -/
theorem squares_clipped_at_edges (r : Raster) (addressable : r.Addressable) (call : SurfaceCall)
    (numbered : call.square.Numbered) :
    let painted := Surface.obey r call
    r.obey? call = some painted ∧ painted.Addressable ∧
    painted.resolution = r.resolution ∧ painted.cells.size = r.width * r.height ∧
    (∀ x y, painted.get? x y =
      if call.square.Covers x y ∧ x < r.width ∧ y < r.height then call.value else r.get? x y) ∧
    (∀ x y, painted.look? x y =
      if call.square.Covers x y ∧ x < r.width ∧ y < r.height then some call.value else r.look? x y) ∧
    ∀ again : SurfaceCall, again.square = call.square → Surface.obey painted again = Surface.obey r again := by
  intro painted
  have size : painted.cells.size = r.width * r.height := by
    have full : painted.cells.size = painted.width * painted.height := addressable.obey.full
    rw [full, Raster.width_obey, Raster.height_obey]
  exact ⟨Raster.obey?_eq addressable numbered, addressable.obey, Raster.resolution_obey, size,
    Raster.get?_obey addressable.full, Raster.look?_obey addressable, fun _ => Raster.obey_obey addressable.full⟩

/-- A square over the right edge, on a raster that is painted in the next row already, and one that begins below. -/
theorem square_clipped_at_corner :
    let red : Colour := ⟨255, 0, 0⟩
    let raster := Surface.obey (Raster.empty ⟨2, 2, 2⟩) (.fill ⟨0, 2, 1⟩ red)
    let across : SurfaceCall := .fill ⟨3, 1, 7⟩ defaultForeground
    let below : SurfaceCall := .clear ⟨0, 9, UInt64.size - 10⟩
    raster.Addressable ∧ across.square.Numbered ∧ below.square.Numbered ∧
      raster.obey? across = some (Surface.obey raster across) ∧
      (Surface.obey raster across).get? 3 3 = some defaultForeground ∧
      (Surface.obey raster across).get? 0 2 = some red ∧
      (Surface.obey raster across).look? 0 UInt64.size = none ∧
      Surface.obey (Surface.obey raster across) (.clear ⟨3, 1, 7⟩) = Surface.obey raster (.clear ⟨3, 1, 7⟩) ∧
      ∀ x y, (Surface.obey raster below).get? x y = raster.get? x y := by
  intro red raster across below
  have fresh : Raster.empty? ⟨2, 2, 2⟩ = some (Raster.empty ⟨2, 2, 2⟩) := rfl
  have addressable : raster.Addressable := (Raster.empty?_eq_some_iff.mp fresh).2.obey
  have numbered : across.square.Numbered := ⟨by decide, by decide⟩
  have numbered' : below.square.Numbered := ⟨by decide, by decide⟩
  obtain ⟨succeeds, -, -, -, shown, looked, twice⟩ := squares_clipped_at_edges raster addressable across numbered
  obtain ⟨-, -, -, -, shown', -⟩ := squares_clipped_at_edges raster addressable below numbered'
  refine ⟨addressable, numbered, numbered', succeeds, (shown 3 3).trans (by decide), (shown 0 2).trans (by decide),
    (looked 0 UInt64.size).trans (by decide), twice (.clear ⟨3, 1, 7⟩) rfl, fun x y => (shown' x y).trans ?_⟩
  -- The square begins below the last row.
  rw [if_neg]
  rintro ⟨⟨-, row, -⟩, -, inside⟩
  exact absurd (Nat.lt_of_le_of_lt row inside) (by decide)

end Chip8Console
