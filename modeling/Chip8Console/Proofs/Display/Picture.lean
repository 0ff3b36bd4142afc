import Chip8Console.Display.Raster
import Chip8Console.Display.Renderer
import Mathlib.Data.Nat.Basic

/-! # The picture of a frame

A raster is seen through `Raster.get?` only.  Painting a square changes the points of the square and no
others (`Raster.get?_paint`), a point of a drawn frame belongs to the square of exactly one pixel
(`Resolution.pixelAt_iff`), and so every point has the colour of its pixel, whatever was there before
(`Renderer.get?_drawFrom_zero`).
-/

namespace Chip8Console

namespace Raster

/-! ## Painting squares -/

theorem getElem?_fillRow {α : Type} (value : α) (count : Nat) (cells : Array α) (start i : Nat) :
    (fillRow value count cells start)[i]? =
      if start ≤ i ∧ i < start + count ∧ i < cells.size then some value else cells[i]? := by
  induction count generalizing cells start with
  | zero =>
    rw [fillRow, if_neg]
    omega
  | succ count ih =>
    -- The first cell is written, and the hypothesis is about the cells behind it.
    rw [fillRow, ih, Array.size_setIfInBounds, Array.getElem?_setIfInBounds]
    by_cases first : start = i
    · subst first
      rw [if_neg (by omega), if_pos rfl]
      split <;> grind
    · rw [if_neg first]
      congr 1
      simp only [eq_iff_iff]
      omega

/-- A stretch of one row holds the points of that row in its columns. -/
theorem stretch_iff {width x count px : Nat} (fits : x + count ≤ width) (inside : px < width) (y py : Nat) :
    (y * width + x ≤ py * width + px ∧ py * width + px < y * width + x + count) ↔
      y = py ∧ x ≤ px ∧ px < x + count := by
  rcases Nat.lt_trichotomy y py with above | rfl | below
  · have rows : (y + 1) * width ≤ py * width := Nat.mul_le_mul_right width above
    rw [Nat.succ_mul] at rows
    omega
  · omega
  · have rows : (py + 1) * width ≤ y * width := Nat.mul_le_mul_right width below
    rw [Nat.succ_mul] at rows
    omega

theorem getElem?_fillRows {α : Type} (value : α) {width x count px : Nat} (fits : x + count ≤ width)
    (inside : px < width) (rows : Nat) (cells : Array α) (y py : Nat)
    (bound : py * width + px < cells.size) :
    (fillRows value width count rows cells (y * width + x))[py * width + px]? =
      if y ≤ py ∧ py < y + rows ∧ x ≤ px ∧ px < x + count then some value
      else cells[py * width + px]? := by
  induction rows generalizing cells y with
  | zero =>
    rw [fillRows, if_neg]
    omega
  | succ rows ih =>
    have next : y * width + x + width = (y + 1) * width + x := by
      rw [Nat.succ_mul]
      omega
    rw [fillRows, next, ih _ _ (by simpa using bound), getElem?_fillRow]
    have stretch := stretch_iff fits inside y py
    -- The point is on the row that is filled now, or that row does not come near it.
    by_cases here : y = py
    · subst here
      rw [if_neg (by omega)]
      congr 1
      simp only [eq_iff_iff]
      omega
    · have passed : ¬ (y * width + x ≤ py * width + px ∧ py * width + px < y * width + x + count ∧
          py * width + px < cells.size) := by omega
      rw [if_neg passed]
      congr 1
      simp only [eq_iff_iff]
      omega

/-- A raster that has all its cells. -/
def Full (r : Raster) : Prop :=
  r.cells.size = r.width * r.height

theorem full_empty (resolution : Resolution) : (empty resolution).Full := by
  simp [Full, empty, width, height]

theorem Full.paint {r : Raster} (full : r.Full) (x y side : Nat) (value : Option Colour) :
    (r.paint x y side value).Full := by
  simpa [Full, width, height] using full

theorem Full.place_lt {r : Raster} (full : r.Full) {px py : Nat} (column : px < r.width) (row : py < r.height) :
    py * r.width + px < r.cells.size := by
  have rows : (py + 1) * r.width ≤ r.height * r.width := Nat.mul_le_mul_right _ row
  rw [full, Nat.mul_comm r.width]
  rw [Nat.succ_mul] at rows
  omega

theorem get?_of_lt (r : Raster) {px : Nat} (column : px < r.width) (py : Nat) :
    r.get? px py = (r.cells[py * r.width + px]?).join := by
  rw [get?, if_neg (Nat.not_le.mpr column)]

@[simp] theorem get?_empty (resolution : Resolution) (x y : Nat) : (empty resolution).get? x y = none := by
  unfold get? empty
  split
  · rfl
  · rw [Array.getElem?_replicate]
    split <;> rfl

theorem get?_paint {r : Raster} (full : r.Full) (x y side : Nat) (value : Option Colour) {px py : Nat}
    (column : px < r.width) (row : py < r.height) :
    (r.paint x y side value).get? px py =
      if (x ≤ px ∧ px < x + side) ∧ y ≤ py ∧ py < y + side then value else r.get? px py := by
  have place := full.place_lt column row
  have column' : px < (r.paint x y side value).width := by simpa [width] using column
  rw [get?_of_lt _ column', get?_of_lt _ column]
  obtain ⟨resolution, cells⟩ := r
  simp only [width, height] at column row place ⊢
  rw [resolution_paint]
  unfold paint
  dsimp only
  -- A square off the right edge is not painted at all, and any other is cut off there.
  by_cases off : resolution.surfaceWidth ≤ x
  · rw [if_pos off, if_neg (by omega)]
  · rw [if_neg off, getElem?_fillRows value (by omega) column _ _ _ _ place]
    by_cases hit : (x ≤ px ∧ px < x + side) ∧ y ≤ py ∧ py < y + side
    · rw [if_pos hit, if_pos (by omega)]
      rfl
    · rw [if_neg hit, if_neg (by omega)]

end Raster

/-! ## Drawing frames -/

/-- The place in a frame of the pixel that a point shows. -/
def Resolution.pixelAt (r : Resolution) (x y : Nat) : Nat :=
  y / r.scale * r.width + x / r.scale

theorem Resolution.pixelAt_lt {r : Resolution} {px py : Nat} (column : px < r.surfaceWidth) (row : py < r.surfaceHeight) :
    r.pixelAt px py < r.pixelCount := by
  have scale : 0 < r.scale := by
    rcases Nat.eq_zero_or_pos r.scale with none | some
    · simp [surfaceWidth, none] at column
    · exact some
  have inside : px / r.scale < r.width := (Nat.div_lt_iff_lt_mul scale).mpr column
  have rows : (py / r.scale + 1) * r.width ≤ r.height * r.width :=
    Nat.mul_le_mul_right _ ((Nat.div_lt_iff_lt_mul scale).mpr row)
  rw [Nat.succ_mul] at rows
  unfold pixelAt pixelCount
  rw [Nat.mul_comm r.width]
  omega

/-- A point lies in the square of one pixel only. -/
theorem Resolution.pixelAt_iff {r : Resolution} {px : Nat} (column : px < r.surfaceWidth) (py index : Nat) :
    (index % r.width * r.scale ≤ px ∧ px < index % r.width * r.scale + r.scale) ∧
        index / r.width * r.scale ≤ py ∧ py < index / r.width * r.scale + r.scale ↔
      index = r.pixelAt px py := by
  have positive : 0 < r.width * r.scale := by
    unfold surfaceWidth at column
    omega
  have width : 0 < r.width := Nat.pos_of_mul_pos_right positive
  have scale : 0 < r.scale := Nat.pos_of_mul_pos_left positive
  have inside : px / r.scale < r.width := (Nat.div_lt_iff_lt_mul scale).mpr column
  -- Both sides say which column and which row of pixels the point is in.
  have across := Nat.div_eq_iff (x := px) (y := index % r.width) scale
  have down := Nat.div_eq_iff (x := py) (y := index / r.width) scale
  have place := Nat.div_mod_unique (a := index) (c := px / r.scale) (d := py / r.scale) width
  rw [Nat.mul_comm r.width] at place
  unfold pixelAt
  omega

namespace Renderer

/-- What the square of a pixel is painted with. -/
def shade (r : Renderer) (pixel : UInt8) : Option Colour :=
  if pixel = 0 then none else some r.foreground

theorem drawPixel_eq (r : Renderer) (index : Nat) (pixel : UInt8) (raster : Raster) :
    r.drawPixel index pixel raster =
      raster.paint (index % r.resolution.width * r.resolution.scale)
        (index / r.resolution.width * r.resolution.scale) r.resolution.scale (r.shade pixel) := by
  unfold drawPixel shade
  split <;> rfl

variable {r : Renderer} {raster : Raster}

/-- A raster that frames can be drawn onto. -/
structure Fits (r : Renderer) (raster : Raster) : Prop where
  resolution : raster.resolution = r.resolution
  full : raster.Full

theorem fits_empty (r : Renderer) : r.Fits (.empty r.resolution) :=
  ⟨rfl, Raster.full_empty _⟩

theorem Fits.drawPixel (fits : r.Fits raster) (index : Nat) (pixel : UInt8) :
    r.Fits (r.drawPixel index pixel raster) := by
  rw [drawPixel_eq]
  exact ⟨(Raster.resolution_paint ..).trans fits.resolution, fits.full.paint ..⟩

theorem Fits.drawFrom (fits : r.Fits raster) (index : Nat) (pixels : List UInt8) :
    r.Fits (r.drawFrom index pixels raster) := by
  induction pixels generalizing index raster with
  | nil => exact fits
  | cons pixel pixels ih => exact ih (fits.drawPixel index pixel) (index + 1)

variable {px py : Nat}

theorem get?_drawPixel (fits : r.Fits raster) (column : px < r.resolution.surfaceWidth)
    (row : py < r.resolution.surfaceHeight) (index : Nat) (pixel : UInt8) :
    (r.drawPixel index pixel raster).get? px py =
      if index = r.resolution.pixelAt px py then r.shade pixel else raster.get? px py := by
  obtain ⟨same, full⟩ := fits
  rw [drawPixel_eq, Raster.get?_paint full _ _ _ _ (by rwa [Raster.width, same])
    (by rwa [Raster.height, same])]
  simp only [Resolution.pixelAt_iff column]

theorem get?_drawFrom_of_lt (fits : r.Fits raster) (column : px < r.resolution.surfaceWidth)
    (row : py < r.resolution.surfaceHeight) {index : Nat} (passed : r.resolution.pixelAt px py < index)
    (pixels : List UInt8) : (r.drawFrom index pixels raster).get? px py = raster.get? px py := by
  induction pixels generalizing index raster with
  | nil => rfl
  | cons pixel pixels ih =>
    rw [Renderer.drawFrom, ih (fits.drawPixel index pixel) (by omega), get?_drawPixel fits column row,
      if_neg (by omega)]

theorem get?_drawFrom (fits : r.Fits raster) (column : px < r.resolution.surfaceWidth)
    (row : py < r.resolution.surfaceHeight) {index : Nat} (due : index ≤ r.resolution.pixelAt px py)
    {pixels : List UInt8} {pixel : UInt8}
    (given : pixels[r.resolution.pixelAt px py - index]? = some pixel) :
    (r.drawFrom index pixels raster).get? px py = r.shade pixel := by
  induction pixels generalizing index raster with
  | nil => cases given
  | cons first pixels ih =>
    rw [Renderer.drawFrom]
    rcases Nat.lt_or_eq_of_le due with later | here
    · rw [List.getElem?_cons, if_neg (by omega), Nat.sub_sub] at given
      exact ih (fits.drawPixel index first) later given
    · -- The point is painted now, and no later pixel reaches it.
      rw [← here, Nat.sub_self] at given
      obtain rfl : first = pixel := by simpa using given
      rw [get?_drawFrom_of_lt (fits.drawPixel index first) column row (by omega),
        get?_drawPixel fits column row, if_pos here]

/-- Every point of a whole frame shows its pixel, whatever was there before. -/
theorem get?_drawFrom_zero (fits : r.Fits raster) {pixels : List UInt8}
    (complete : pixels.length = r.resolution.pixelCount) (column : px < r.resolution.surfaceWidth)
    (row : py < r.resolution.surfaceHeight) :
    (r.drawFrom 0 pixels raster).get? px py = r.shade (pixels.getD (r.resolution.pixelAt px py) 0) := by
  have place : r.resolution.pixelAt px py < pixels.length := complete ▸ Resolution.pixelAt_lt column row
  refine get?_drawFrom fits column row (Nat.zero_le _) ?_
  rw [Nat.sub_zero, List.getD_eq_getElem?_getD, List.getElem?_eq_getElem place, Option.getD_some]

end Renderer

/-! ## Whole frames -/

namespace Raster

variable {r s : Raster}

theorem Full.getElem?_cells (full : r.Full) {place : Nat} (inside : place < r.cells.size) :
    place % r.width < r.width ∧ place / r.width < r.height ∧
      r.cells[place]? = some (r.get? (place % r.width) (place / r.width)) := by
  have area : place < r.height * r.width := by
    rw [full, Nat.mul_comm] at inside
    exact inside
  have row : place / r.width < r.height := Nat.div_lt_of_lt_mul (by rwa [Nat.mul_comm])
  have column : place % r.width < r.width := by
    apply Nat.mod_lt
    apply Nat.pos_of_ne_zero
    intro zero
    simp [zero] at area
  have here : place / r.width * r.width + place % r.width = place := Nat.div_add_mod' place r.width
  refine ⟨column, row, ?_⟩
  rw [get?_of_lt r column, here, Array.getElem?_eq_getElem inside]
  rfl

/-- Rasters of one resolution that show the same at every point are the same. -/
theorem Full.ext_get? (full : r.Full) (full' : s.Full) (resolution : r.resolution = s.resolution)
    (same : ∀ px py, px < r.width → py < r.height → r.get? px py = s.get? px py) : r = s := by
  have width : r.width = s.width := by rw [Raster.width, Raster.width, resolution]
  have size : r.cells.size = s.cells.size := by rw [full, full', width, Raster.height, Raster.height, resolution]
  have cells : r.cells = s.cells := by
    apply Array.ext_getElem?
    intro place
    by_cases inside : place < r.cells.size
    · obtain ⟨column, row, here⟩ := full.getElem?_cells inside
      obtain ⟨-, -, there⟩ := full'.getElem?_cells (size ▸ inside)
      rw [here, there, same _ _ column row, width]
    · rw [Array.getElem?_eq_none (Nat.le_of_not_lt inside),
        Array.getElem?_eq_none (size ▸ Nat.le_of_not_lt inside)]
  exact congrArg₂ Raster.mk resolution cells

end Raster

namespace Renderer

variable {r : Renderer} {raster other : Raster} {pixels : List UInt8}

theorem render_of_length {s : Type} [Surface s] {surface : s} (complete : pixels.length = r.resolution.pixelCount) :
    r.render pixels surface = (r.drawFrom 0 pixels surface, .ok ()) := by
  simp [render, check, complete]

theorem render_of_wrong_length {s : Type} [Surface s] {surface : s} (wrong : pixels.length ≠ r.resolution.pixelCount) :
    r.render pixels surface = (surface, .error (.malformedFrame r.resolution.pixelCount pixels.length)) := by
  simp [render, check, wrong]

/-- What a raster has shown before does not matter. -/
theorem drawFrom_congr (fits : r.Fits raster) (fits' : r.Fits other) (complete : pixels.length = r.resolution.pixelCount) :
    r.drawFrom 0 pixels raster = r.drawFrom 0 pixels other := by
  have drawn := fits.drawFrom 0 pixels
  have drawn' := fits'.drawFrom 0 pixels
  apply drawn.full.ext_get? drawn'.full (drawn.resolution.trans drawn'.resolution.symm)
  intro px py column row
  rw [Raster.width, drawn.resolution] at column
  rw [Raster.height, drawn.resolution] at row
  rw [get?_drawFrom_zero fits complete column row, get?_drawFrom_zero fits' complete column row]

end Renderer

/-- A frame is drawn as a whole: every point shows its pixel, and nothing is left of what the raster has shown
before.  A frame of another length is refused, and leaves the raster as it was. -/
theorem render_redraws (r : Renderer) (raster : Raster) (fits : r.Fits raster) (pixels : List UInt8) :
    let drawn := r.render pixels raster
    (pixels.length = r.resolution.width * r.resolution.height →
      drawn.2 = .ok () ∧
      (∀ x y, x < r.resolution.width * r.resolution.scale → y < r.resolution.height * r.resolution.scale →
        ∃ pixel, pixels[y / r.resolution.scale * r.resolution.width + x / r.resolution.scale]? = some pixel ∧
          drawn.1.get? x y = if pixel ≠ 0 then some r.foreground else none) ∧
      ∀ other, r.Fits other → (r.render pixels other).1 = drawn.1) ∧
    (pixels.length ≠ r.resolution.width * r.resolution.height →
      drawn = (raster, .error (.malformedFrame (r.resolution.width * r.resolution.height) pixels.length))) := by
  intro drawn
  constructor
  · intro complete
    have rendered : drawn = (r.drawFrom 0 pixels raster, .ok ()) := Renderer.render_of_length complete
    rw [rendered]
    refine ⟨rfl, ?_, ?_⟩
    · intro x y column row
      have place : r.resolution.pixelAt x y < pixels.length := complete ▸ Resolution.pixelAt_lt column row
      refine ⟨pixels[r.resolution.pixelAt x y], List.getElem?_eq_getElem place, ?_⟩
      have shown := Renderer.get?_drawFrom_zero fits complete column row
      rw [List.getD_eq_getElem?_getD, List.getElem?_eq_getElem place, Option.getD_some] at shown
      rw [shown, Renderer.shade, ite_not]
    · intro other fits'
      rw [Renderer.render_of_length complete]
      exact Renderer.drawFrom_congr fits' fits complete
  · intro wrong
    exact Renderer.render_of_wrong_length wrong

/-- On a raster with a square across both pixels, a frame with the second pixel set, and one that is too short. -/
theorem render_redraws_across_pixels :
    let r : Renderer := { resolution := ⟨2, 1, 2⟩, foreground := ⟨0x26, 0xcd, 0xff⟩ }
    let raster : Raster := (Raster.empty r.resolution).paint 1 0 2 (some ⟨255, 0, 0⟩)
    r.Fits raster ∧ (r.render [0, 7] raster).1.get? 1 1 = none ∧
      (r.render [0, 7] raster).1.get? 2 0 = some r.foreground ∧
      r.render [7] raster = (raster, .error (.malformedFrame 2 1)) := by
  intro r raster
  have fits : r.Fits raster := ⟨rfl, (Raster.full_empty _).paint ..⟩
  obtain ⟨-, shown, -⟩ := (render_redraws r raster fits [0, 7]).1 rfl
  obtain ⟨first, given, clear⟩ := shown 1 1 (by decide) (by decide)
  obtain ⟨second, given', set⟩ := shown 2 0 (by decide) (by decide)
  obtain rfl : 0 = first := by simpa [r] using given
  obtain rfl : 7 = second := by simpa [r] using given'
  exact ⟨fits, clear, set, (render_redraws r raster fits [7]).2 (by decide)⟩

end Chip8Console
