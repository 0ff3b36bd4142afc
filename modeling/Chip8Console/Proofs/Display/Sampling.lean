import Chip8Console.Proofs.Display.Picture
import Mathlib.Data.List.Sort

/-! # Sampling a picture

A raster is sampled at the top left cell of each square.  What is lit there comes row by row, each pixel at most once
(`Raster.litPixels_rowMajor`, `Raster.mem_litPixels_iff`).  After a frame was drawn these are just the pixels that are
set in the frame, whatever the scale and the colour, and whatever the raster has shown before
(`lit_points_are_set_pixels`).
-/

namespace Chip8Console

/-! ## Rows and columns -/

/-- One pixel, given by its column and its row, comes before another one when a frame is read row by row. -/
def RowMajor (p q : Nat × Nat) : Prop :=
  p.2 < q.2 ∨ p.2 = q.2 ∧ p.1 < q.1

instance : Std.Irrefl RowMajor where
  irrefl p before := by
    unfold RowMajor at before
    omega

instance : Std.Antisymm RowMajor where
  antisymm p q before after := by
    unfold RowMajor at before after
    omega

theorem rowMajor_of_lt (width : Nat) {i j : Nat} (before : i < j) :
    RowMajor (i % width, i / width) (j % width, j / width) := by
  rcases Nat.lt_or_eq_of_le (Nat.div_le_div_right (c := width) (Nat.le_of_lt before)) with above | same
  · exact .inl above
  · have here := Nat.div_add_mod i width
    have there := Nat.div_add_mod j width
    rw [same] at here
    exact .inr ⟨same, by omega⟩

/-- A column and a row belong to one place of a frame. -/
theorem exists_place_iff {width height column row : Nat} {p : Nat → Prop} :
    (∃ i, i < width * height ∧ p i ∧ (i % width, i / width) = (column, row)) ↔
      column < width ∧ row < height ∧ p (row * width + column) := by
  constructor
  · rintro ⟨i, inside, holds, place⟩
    obtain ⟨rfl, rfl⟩ := Prod.mk.inj place
    have positive : 0 < width := Nat.pos_of_mul_pos_right (Nat.lt_of_le_of_lt (Nat.zero_le i) inside)
    rw [Nat.div_add_mod']
    exact ⟨Nat.mod_lt i positive, Nat.div_lt_of_lt_mul inside, holds⟩
  · rintro ⟨left, above, holds⟩
    have positive : 0 < width := Nat.lt_of_le_of_lt (Nat.zero_le column) left
    have place := (Nat.div_mod_unique (a := row * width + column) (c := column) (d := row) positive).mpr
      ⟨by rw [Nat.mul_comm]; exact Nat.add_comm _ _, left⟩
    refine ⟨row * width + column, ?_, holds, by rw [place.1, place.2]⟩
    have rows : (row + 1) * width ≤ height * width := Nat.mul_le_mul_right width above
    rw [Nat.succ_mul] at rows
    rw [Nat.mul_comm width]
    omega

/-! ## What is lit -/

namespace Raster

theorem litPixels_rowMajor (r : Raster) : r.litPixels.Pairwise RowMajor := by
  unfold litPixels
  refine List.pairwise_lt_range.filterMap _ fun i j before p first q second => ?_
  simp only [Option.ite_none_right_eq_some, Option.some.injEq] at first second
  rw [← first.2, ← second.2]
  exact rowMajor_of_lt _ before

theorem mem_litPixels_iff (r : Raster) (column row : Nat) :
    (column, row) ∈ r.litPixels ↔ column < r.resolution.width ∧ row < r.resolution.height ∧ r.isLit column row := by
  have listed : (column, row) ∈ r.litPixels ↔ ∃ i, i < r.resolution.width * r.resolution.height ∧
      r.isLit column row ∧ (i % r.resolution.width, i / r.resolution.width) = (column, row) := by
    simp only [litPixels, List.mem_filterMap, List.mem_range, Option.ite_none_right_eq_some, Option.some.injEq]
    refine exists_congr fun i => and_congr_right fun _ => and_congr_left fun place => ?_
    obtain ⟨rfl, rfl⟩ := Prod.mk.inj place
    rfl
  rw [listed, exists_place_iff (p := fun _ => r.isLit column row)]

end Raster

namespace Renderer

variable {r : Renderer} {raster : Raster} {pixels : List UInt8} {column row : Nat}

theorem isLit_drawFrom (fits : r.Fits raster) (complete : pixels.length = r.resolution.pixelCount)
    (scale : 0 < r.resolution.scale) (left : column < r.resolution.width) (above : row < r.resolution.height) :
    (r.drawFrom 0 pixels raster).isLit column row ↔
      ∃ pixel, pixels[row * r.resolution.width + column]? = some pixel ∧ pixel ≠ 0 := by
  -- The cell that is sampled for a pixel shows that pixel.
  have place : r.resolution.pixelAt (column * r.resolution.scale) (row * r.resolution.scale) =
      row * r.resolution.width + column := by
    rw [Resolution.pixelAt, Nat.mul_div_cancel _ scale, Nat.mul_div_cancel _ scale]
  have across : column * r.resolution.scale < r.resolution.surfaceWidth := Nat.mul_lt_mul_of_pos_right left scale
  have down : row * r.resolution.scale < r.resolution.surfaceHeight := Nat.mul_lt_mul_of_pos_right above scale
  have inside : row * r.resolution.width + column < pixels.length := by
    rw [complete, ← place]
    exact Resolution.pixelAt_lt across down
  rw [Raster.isLit, (fits.drawFrom 0 pixels).resolution, get?_drawFrom_zero fits complete across down, place,
    List.getD_eq_getElem?_getD, List.getElem?_eq_getElem inside]
  simp [shade]

theorem mem_litPixels_drawFrom (fits : r.Fits raster) (complete : pixels.length = r.resolution.pixelCount)
    (scale : 0 < r.resolution.scale) :
    (column, row) ∈ (r.drawFrom 0 pixels raster).litPixels ↔
      column < r.resolution.width ∧ row < r.resolution.height ∧
        ∃ pixel, pixels[row * r.resolution.width + column]? = some pixel ∧ pixel ≠ 0 := by
  rw [Raster.mem_litPixels_iff, (fits.drawFrom 0 pixels).resolution]
  exact and_congr_right fun left => and_congr_right fun above => isLit_drawFrom fits complete scale left above

theorem litPixels_drawFrom (fits : r.Fits raster) (complete : pixels.length = r.resolution.pixelCount)
    (scale : 0 < r.resolution.scale) :
    (r.drawFrom 0 pixels raster).litPixels =
      (pixels.findIdxs (· ≠ 0)).map fun i => (i % r.resolution.width, i / r.resolution.width) := by
  -- Both lists are in the order of rows, so it is enough that the same pixels are in them.
  have ordered : ((pixels.findIdxs (· ≠ 0)).map fun i =>
      (i % r.resolution.width, i / r.resolution.width)).Pairwise RowMajor :=
    List.pairwise_findIdxs.map _ fun _ _ => rowMajor_of_lt _
  refine (Raster.litPixels_rowMajor _).eq_of_mem_iff ordered ?_
  rintro ⟨column, row⟩
  rw [mem_litPixels_drawFrom fits complete scale,
    ← exists_place_iff (p := fun i => ∃ pixel, pixels[i]? = some pixel ∧ pixel ≠ 0), List.mem_map]
  refine exists_congr fun i => ?_
  rw [List.mem_findIdxs_iff_exists_getElem_pos, ← and_assoc]
  refine and_congr_left fun _ => ?_
  constructor
  · rintro ⟨-, pixel, given, set⟩
    obtain ⟨inside, rfl⟩ := List.getElem?_eq_some_iff.mp given
    exact ⟨inside, decide_eq_true set⟩
  · rintro ⟨inside, set⟩
    exact ⟨Nat.lt_of_lt_of_eq inside complete, _, List.getElem?_eq_getElem inside, of_decide_eq_true set⟩

end Renderer

/-- After a frame was drawn, the points that are lit are those of the pixels that are set, row by row and each of them
once.  Neither the scale nor the colour matters, nor what the raster has shown before. -/
theorem lit_points_are_set_pixels (r : Renderer) (raster : Raster) (fits : r.Fits raster) (pixels : List UInt8)
    (complete : pixels.length = r.resolution.width * r.resolution.height) (scale : 1 ≤ r.resolution.scale) :
    let w := r.resolution.width
    let h := r.resolution.height
    let drawn := (r.render pixels raster).1
    let places := pixels.findIdxs (· ≠ 0)
    drawn.litPoints = places.map (fun i => (Float.ofNat (i % w), -1 * Float.ofNat (i / w))) ∧
    drawn.litPixels = places.map (fun i => (i % w, i / w)) ∧
    drawn.litPixels.Pairwise RowMajor ∧
    (∀ column row, (column, row) ∈ drawn.litPixels ↔
      column < w ∧ row < h ∧ ∃ pixel, pixels[row * w + column]? = some pixel ∧ pixel ≠ 0) ∧
    ∀ (other : Renderer) (raster' : Raster), other.Fits raster' → other.resolution.width = w →
      other.resolution.height = h → 1 ≤ other.resolution.scale →
        (other.render pixels raster').1.litPoints = drawn.litPoints := by
  intro w h drawn places
  have rendered : drawn = r.drawFrom 0 pixels raster := congrArg Prod.fst (Renderer.render_of_length complete)
  have lit : drawn.litPixels = places.map fun i => (i % w, i / w) := by
    rw [rendered]
    exact Renderer.litPixels_drawFrom fits complete scale
  have points : drawn.litPoints = places.map fun i => (Float.ofNat (i % w), -1 * Float.ofNat (i / w)) := by
    rw [Raster.litPoints, lit, List.map_map]
    rfl
  refine ⟨points, lit, drawn.litPixels_rowMajor, fun column row => ?_, ?_⟩
  · rw [rendered]
    exact Renderer.mem_litPixels_drawFrom fits complete scale
  · intro other raster' fits' width height scale'
    have complete' : pixels.length = other.resolution.pixelCount := by
      rw [complete, Resolution.pixelCount, width, height]
    rw [Raster.litPoints, Raster.litPoints, lit, Renderer.render_of_length complete',
      Renderer.litPixels_drawFrom fits' complete' scale', width]

/-- A column of three pixels at two scales, the first time on a raster that shows the pixel that is not set. -/
theorem lit_points_of_column :
    let r : Renderer := { resolution := ⟨1, 3, 2⟩, foreground := ⟨0x26, 0xcd, 0xff⟩ }
    let large : Renderer := { resolution := ⟨1, 3, 5⟩, foreground := ⟨255, 0, 0⟩ }
    let raster : Raster := (Raster.empty r.resolution).paint 0 2 2 (some ⟨255, 0, 0⟩)
    r.Fits raster ∧ (r.render [7, 0, 1] raster).1.litPixels = [(0, 0), (0, 2)] ∧
      (large.render [7, 0, 1] (Raster.empty large.resolution)).1.litPoints = (r.render [7, 0, 1] raster).1.litPoints := by
  intro r large raster
  have fits : r.Fits raster := ⟨rfl, (Raster.full_empty _).paint ..⟩
  obtain ⟨-, lit, -, -, scaled⟩ := lit_points_are_set_pixels r raster fits [7, 0, 1] rfl (by decide)
  exact ⟨fits, lit.trans (by decide), scaled large _ large.fits_empty rfl rfl (by decide)⟩

end Chip8Console
