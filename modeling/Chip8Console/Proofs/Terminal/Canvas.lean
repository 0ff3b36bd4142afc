import Chip8Console.Proofs.Display.Sampling
import Chip8Console.Proofs.Terminal.Repainting

/-! # The picture on a terminal

A page is drawn in strokes, of which the last one in a cell says what the cell holds (`Grid.get?_drawAll`).  Inside the
left box there are only the ground and the picture: the border and the title stand on its edges (`Pane.Inside`), and
all of the right box is to the right of it.  Where the page has room for the whole display, the point of a pixel has a
cell of its own, as the bounds of the canvas are the corner pixels (`Canvas.cell?_canvasPoint`).  So the cell is painted
just if the pixel is lit (`Terminal.get?_draw_picture`).

No symbol in the left box is wide.  By `Terminal.Settled.get?_present` the picture can therefore be seen as it is on the
page, whatever was shown before (`canvas_shows_set_pixels`).
-/

namespace Chip8Console

/-! ## Strokes in a cell -/

namespace Grid

/-- Strokes that leave the same in a cell, whatever was there, are seen just if there are any. -/
theorem get?_drawAll (cell : Cell) {x y : Nat} {strokes : List Stroke}
    (alike : ∀ s ∈ strokes, s.x = x ∧ s.y = y → ∀ old : Cell, old.draw s = cell) (g : Grid) :
    (g.drawAll strokes).get? x y =
      if ∃ s ∈ strokes, s.x = x ∧ s.y = y then (g.get? x y).map fun _ => cell else g.get? x y := by
  induction strokes generalizing g with
  | nil => simp
  | cons stroke strokes ih =>
    rw [drawAll_cons, ih (fun s listed => alike s (List.mem_cons_of_mem _ listed)), get?_draw]
    by_cases here : stroke.x = x ∧ stroke.y = y
    · have left := alike stroke List.mem_cons_self here
      have here' : x = stroke.x ∧ y = stroke.y := ⟨here.1.symm, here.2.symm⟩
      simp [here', left, Function.comp_def]
    · have here' : ¬ (x = stroke.x ∧ y = stroke.y) := fun at' => here ⟨at'.1.symm, at'.2.symm⟩
      simp [here, here']

theorem get?_drawAll_elsewhere {x y : Nat} {strokes : List Stroke}
    (elsewhere : ∀ s ∈ strokes, ¬ (s.x = x ∧ s.y = y)) (g : Grid) :
    (g.drawAll strokes).get? x y = g.get? x y := by
  rw [get?_drawAll .blank fun s listed here => absurd here (elsewhere s listed), if_neg]
  rintro ⟨s, listed, here⟩
  exact elsewhere s listed here

/-- What every stroke in a cell brings about, and what holds of the cell before, holds of it afterwards. -/
theorem drawAll_induct {x y : Nat} {p : Cell → Prop} {strokes : List Stroke}
    (brought : ∀ s ∈ strokes, s.x = x ∧ s.y = y → ∀ old : Cell, p (old.draw s)) {g : Grid}
    (before : ∀ cell, g.get? x y = some cell → p cell) {cell : Cell}
    (drawn : (g.drawAll strokes).get? x y = some cell) : p cell := by
  induction strokes generalizing g with
  | nil => exact before cell drawn
  | cons stroke strokes ih =>
    apply ih (fun s listed => brought s (List.mem_cons_of_mem _ listed)) (g := g.draw stroke) _ drawn
    intro old
    rw [get?_draw]
    split
    · next here =>
      intro changed
      obtain ⟨older, -, rfl⟩ := Option.map_eq_some_iff.mp changed
      exact brought stroke List.mem_cons_self ⟨here.1.symm, here.2.symm⟩ older
    · exact before old

theorem get?_blank (width height x y : Nat) :
    (blank width height).get? x y = if x < width ∧ y < height then some .blank else none := by
  by_cases column : x < width
  · have row : y * width + x < width * height ↔ y < height := by
      rw [Nat.mul_comm width, ← Nat.div_lt_iff_lt_mul (by omega), Nat.mul_comm y, Nat.mul_add_div (by omega),
        Nat.div_eq_of_lt column, Nat.add_zero]
    simp [get?, blank, Nat.not_le.mpr column, column, row, Array.getElem?_replicate]
  · simp [get?, blank, Nat.le_of_not_lt column, column]

end Grid

/-! ## The edges of a box -/

namespace Pane

variable {p : Pane}

/-- A cell of a box that does not belong to its border. -/
def Inside (p : Pane) (x y : Nat) : Prop :=
  p.left < x ∧ x + 1 < p.left + p.width ∧ 0 < y ∧ y + 1 < p.height

theorem mem_ground {inks : Inks} {s : Stroke} :
    s ∈ p.ground inks ↔
      (p.left ≤ s.x ∧ s.x < p.left + p.width ∧ s.y < p.height) ∧ s.symbol = [' '] ∧ s.inks = some inks := by
  cases s
  simp only [ground, rows, columns, List.mem_flatMap, List.mem_map, List.mem_range, List.mem_range'_1, Stroke.mk.injEq]
  grind

/-- What a border is made of. -/
def sides : List Char :=
  ['│', '─', '┘', '┐', '└', '┌']

theorem width_of_mem_sides {c : Char} (listed : c ∈ sides) : Text.width c = 1 := by
  have narrow : sides.all (Text.width · = 1) := by decide +kernel
  simpa using List.all_eq_true.mp narrow c listed

theorem of_mem_border {s : Stroke} (columns : p.width ≠ 0) (listed : s ∈ p.border) :
    p.left ≤ s.x ∧ ¬ p.Inside s.x s.y ∧ ∃ c ∈ sides, s.symbol = [c] := by
  simp only [border, rows, Pane.columns, List.mem_append, List.mem_map, List.mem_range, List.mem_range'_1,
    List.mem_cons, List.not_mem_nil, or_false] at listed
  unfold Inside
  rcases listed with (((⟨y, -, rfl⟩ | ⟨x, across, rfl⟩) | ⟨y, -, rfl⟩) | ⟨x, across, rfl⟩) | rfl | rfl | rfl | rfl
  all_goals
    dsimp only
    refine ⟨by omega, by omega, _, ?_, rfl⟩
    decide

theorem of_mem_title {text : String} {s : Stroke} (listed : s ∈ p.title text) : p.left ≤ s.x ∧ s.y = 0 := by
  simp only [title, List.mem_map] at listed
  obtain ⟨letter, -, rfl⟩ := listed
  exact ⟨by dsimp only; omega, rfl⟩

/-- An outline keeps off the inside of its box.  Below the line with the title all its symbols are narrow. -/
theorem of_mem_outline {text : String} {s : Stroke} (listed : s ∈ p.outline text) :
    p.left ≤ s.x ∧ ¬ p.Inside s.x s.y ∧ (0 < s.y → Text.clusterWidth s.symbol = 1) := by
  unfold outline at listed
  split at listed
  · cases listed
  · next some =>
    simp only [Bool.or_eq_true, decide_eq_true_eq, not_or] at some
    rcases List.mem_append.mp listed with side | letter
    · obtain ⟨left, outside, c, line, symbol⟩ := of_mem_border some.1 side
      exact ⟨left, outside, fun _ => by simp [symbol, width_of_mem_sides line]⟩
    · obtain ⟨left, top⟩ := of_mem_title letter
      exact ⟨left, by simp [Inside, top], by simp [top]⟩

theorem get?_ground (g : Grid) (inks : Inks) {x y : Nat} (inside : p.Inside x y) :
    (g.drawAll (p.ground inks)).get? x y = (g.get? x y).map fun _ => { inks } := by
  have alike (s) (listed : s ∈ p.ground inks) (old : Cell) : old.draw s = { inks } := by
    obtain ⟨-, symbol, given⟩ := mem_ground.mp listed
    simp [Cell.draw, symbol, given]
  rw [Grid.get?_drawAll _ fun s listed _ => alike s listed, if_pos]
  refine ⟨⟨x, y, _, _⟩, mem_ground.mpr ⟨?_, rfl, rfl⟩, rfl, rfl⟩
  unfold Inside at inside
  dsimp only
  omega

theorem get?_outline (g : Grid) (text : String) {x y : Nat} (off : p.Inside x y ∨ x < p.left) :
    (g.drawAll (p.outline text)).get? x y = g.get? x y := by
  apply Grid.get?_drawAll_elsewhere
  rintro s listed ⟨rfl, rfl⟩
  obtain ⟨left, outside, -⟩ := of_mem_outline listed
  rcases off with inside | beside
  · exact outside inside
  · omega

end Pane

theorem le_of_mem_textStrokes {p : Pane} {lines : List String} {s : Stroke} (listed : s ∈ textStrokes p lines) :
    p.left ≤ s.x := by
  simp only [textStrokes, List.mem_flatMap, lineStrokes] at listed
  obtain ⟨line, -, listed⟩ := listed
  split at listed
  · cases listed
  · obtain ⟨cluster, -, rfl⟩ := List.mem_map.mp listed
    dsimp only
    omega

theorem get?_textStrokes (g : Grid) (p : Pane) (lines : List String) {x : Nat} (y : Nat) (beside : x < p.left) :
    (g.drawAll (textStrokes p lines)).get? x y = g.get? x y := by
  apply Grid.get?_drawAll_elsewhere
  rintro s listed ⟨rfl, -⟩
  exact Nat.not_le.mpr beside (le_of_mem_textStrokes listed)

/-! ## Cells of the picture -/

/-- A cell that shows a lit pixel. -/
def Cell.lit (colour : Colour) : Cell where
  symbol := ['▄']
  inks := { foreground := .rgb colour }

/-- A cell of the picture that shows none. -/
def Cell.unlit : Cell where
  inks := { background := .black }

/-- The picture is that of the machine's display, at any scale. -/
structure Resolution.OfDisplay (r : Resolution) : Prop where
  width : r.width = displayWidth
  height : r.height = displayHeight

namespace Canvas

/-- Along an axis with as many cells as pixels, each pixel has a cell of its own, and is within the bounds. -/
theorem cellAt_column : ∀ n : Fin 64, ¬ Float.ofNat n < 0 ∧ ¬ Float.ofNat 63 < Float.ofNat n ∧
    cellAt (Float.ofNat n - 0) (Float.ofNat 63 - 0).abs 64 = n := by
  decide +kernel

/-- The same for rows, which grow downward from zero. -/
theorem cellAt_row : ∀ n : Fin 32, ¬ -1 * Float.ofNat n < -1 * Float.ofNat 31 ∧ ¬ 0 < -1 * Float.ofNat n ∧
    cellAt (0 - -1 * Float.ofNat n) (0 - -1 * Float.ofNat 31).abs 32 = n := by
  decide +kernel

/-- A canvas with a cell for each pixel of the display shows each pixel in its own cell. -/
theorem cell?_canvasPoint {p : Pane} {resolution : Resolution} (display : resolution.OfDisplay)
    (columns : p.innerWidth = displayWidth) (rows : p.innerHeight = displayHeight) {column row : Nat}
    (left : column < displayWidth) (above : row < displayHeight) :
    (p.canvas resolution).cell? (Raster.canvasPoint (column, row)) = some (column, row) := by
  have extent : ((Float.ofNat 63 - 0).abs == 0) = false ∧ ((0 - -1 * Float.ofNat 31).abs == 0) = false := by
    decide +kernel
  obtain ⟨least, most, across⟩ := cellAt_column ⟨column, left⟩
  obtain ⟨lowest, highest, down⟩ := cellAt_row ⟨row, above⟩
  have inside : column < 64 ∧ row < 32 := ⟨left, above⟩
  simp only [cell?, Pane.canvas, Resolution.xBounds, Resolution.yBounds, Raster.canvasPoint, display.width,
    display.height, columns, rows, displayWidth, displayHeight, Nat.reduceSub, across, down]
  simp [least, most, lowest, highest, extent, inside]

end Canvas

/-- All pixels are pixels of the machine's display. -/
def OnDisplay (pixels : List (Nat × Nat)) : Prop :=
  ∀ pixel ∈ pixels, pixel.1 < displayWidth ∧ pixel.2 < displayHeight

theorem Raster.onDisplay_litPixels {r : Raster} (display : r.resolution.OfDisplay) : OnDisplay r.litPixels := by
  rintro ⟨column, row⟩ listed
  obtain ⟨left, above, -⟩ := (r.mem_litPixels_iff column row).mp listed
  exact ⟨display.width ▸ left, display.height ▸ above⟩

section Pixels

variable {p : Pane} {resolution : Resolution} {lit : List (Nat × Nat)}

theorem mem_pictureStrokes (display : resolution.OfDisplay) (columns : p.innerWidth = displayWidth)
    (rows : p.innerHeight = displayHeight) (pixels : OnDisplay lit) (foreground : Colour) {s : Stroke} :
    s ∈ pictureStrokes p resolution foreground (lit.map Raster.canvasPoint) ↔ ∃ column row, (column, row) ∈ lit ∧
      s = { x := p.left + 1 + column, y := 1 + row, symbol := ['▄'], inks := (Cell.lit foreground).inks } := by
  have shown : (lit.map Raster.canvasPoint).filterMap (p.canvas resolution).cell? = lit := by
    rw [List.filterMap_map]
    refine (List.filterMap_congr fun pixel listed => ?_).trans List.filterMap_some
    obtain ⟨left, above⟩ := pixels pixel listed
    exact Canvas.cell?_canvasPoint display columns rows left above
  rw [pictureStrokes, shown, List.mem_map, Prod.exists]
  refine exists_congr fun column => exists_congr fun row => and_congr_right fun _ => ?_
  rw [eq_comm]
  rfl

/-- A picture that is not squeezed has a cell for each pixel, and that cell is painted just if the pixel is lit. -/
theorem get?_pictureStrokes (g : Grid) (display : resolution.OfDisplay) (columns : p.innerWidth = displayWidth)
    (rows : p.innerHeight = displayHeight) (pixels : OnDisplay lit) (foreground : Colour) {column row x y : Nat}
    (across : x = p.left + 1 + column) (down : y = 1 + row) :
    (g.drawAll (pictureStrokes p resolution foreground (lit.map Raster.canvasPoint))).get? x y =
      if (column, row) ∈ lit then (g.get? x y).map fun _ => .lit foreground else g.get? x y := by
  have strokes {s : Stroke} := mem_pictureStrokes display columns rows pixels foreground (s := s)
  have alike (s) (listed : s ∈ pictureStrokes p resolution foreground (lit.map Raster.canvasPoint)) (old : Cell) :
      old.draw s = .lit foreground := by
    obtain ⟨_, _, -, rfl⟩ := strokes.mp listed
    rfl
  have painted : (∃ s ∈ pictureStrokes p resolution foreground (lit.map Raster.canvasPoint), s.x = x ∧ s.y = y) ↔
      (column, row) ∈ lit := by
    subst across down
    constructor
    · rintro ⟨s, listed, x, y⟩
      obtain ⟨column', row', set, rfl⟩ := strokes.mp listed
      obtain rfl : column' = column := Nat.add_left_cancel x
      obtain rfl : row' = row := Nat.add_left_cancel y
      exact set
    · intro set
      exact ⟨_, strokes.mpr ⟨column, row, set, rfl⟩, rfl, rfl⟩
  rw [Grid.get?_drawAll _ fun s listed _ => alike s listed]
  simp only [painted]

end Pixels

namespace Page

/-- The room that a picture takes with its border. -/
def HasRoom (resolution : Resolution) (width height : Nat) : Prop :=
  2 + resolution.width ≤ width ∧ 2 + resolution.height ≤ height

variable {resolution : Resolution} {width height : Nat}

theorem layout_of_room (room : HasRoom resolution width height) :
    (layout resolution width height).canvas = ⟨0, 2 + resolution.width, 2 + resolution.height⟩ ∧
      (layout resolution width height).status.left = 2 + resolution.width := by
  unfold HasRoom at room
  simp only [layout, Pane.mk.injEq, true_and]
  omega

end Page

namespace Terminal

variable {t : Terminal} {raster : Raster} {panel : Panel} {column row : Nat}

/-- A pixel has a cell of its own, which nothing but the ground and the picture is drawn in. -/
theorem get?_draw_picture (display : t.resolution.OfDisplay) (sampled : raster.resolution.OfDisplay)
    (room : Page.HasRoom t.resolution t.shown.width t.shown.height) (left : column < t.resolution.width)
    (above : row < t.resolution.height) :
    (t.draw raster panel).get? (1 + column) (1 + row) =
      some (if (column, row) ∈ raster.litPixels then .lit t.foreground else .unlit) := by
  obtain ⟨canvas, beside⟩ := Page.layout_of_room room
  unfold Page.HasRoom at room
  have blank : (Grid.blank t.shown.width t.shown.height).get? (1 + column) (1 + row) = some .blank := by
    rw [Grid.get?_blank, if_pos (by omega)]
  have inside : Pane.Inside ⟨0, 2 + t.resolution.width, 2 + t.resolution.height⟩ (1 + column) (1 + row) := by
    simp only [Pane.Inside]
    omega
  simp only [draw, Page.strokes, canvas, Grid.drawAll_append, Raster.litPoints]
  rw [get?_textStrokes _ _ _ _ (by omega), Pane.get?_outline _ _ (.inr (by omega)),
    get?_pictureStrokes _ display (by simp [Pane.innerWidth, display.width])
      (by simp [Pane.innerHeight, display.height]) (Raster.onDisplay_litPixels sampled) _
      (show 1 + column = 0 + 1 + column by omega) rfl,
    Pane.get?_outline _ _ (.inl inside), Pane.get?_ground _ _ inside, blank]
  split
  · rfl
  · rfl

/-- The picture and the border on its left have no wide symbols. -/
theorem narrow_draw_picture (room : Page.HasRoom t.resolution t.shown.width t.shown.height)
    (left : column ≤ t.resolution.width) {cell : Cell}
    (drawn : (t.draw raster panel).get? column (1 + row) = some cell) : cell.width ≤ 1 := by
  obtain ⟨-, beside⟩ := Page.layout_of_room room
  have block : Text.width ' ' = 1 ∧ Text.width '▄' = 1 := by decide +kernel
  apply Grid.drawAll_induct (p := fun cell => cell.width ≤ 1) _ _ drawn
  · intro s listed here old
    simp only [Page.strokes, List.mem_append] at listed
    apply Nat.le_of_eq
    show Text.clusterWidth s.symbol = 1
    rcases listed with (((ground | side) | pixel) | side) | letter
    · simp [(Pane.mem_ground.mp ground).2.1, block]
    · exact (Pane.of_mem_outline side).2.2 (by omega)
    · obtain ⟨_, -, rfl⟩ := List.mem_map.mp pixel
      simp [block]
    · have := (Pane.of_mem_outline side).1
      omega
    · have := le_of_mem_textStrokes letter
      omega
  · intro cell blank
    rw [Grid.get?_blank] at blank
    split at blank
    · cases blank
      simp [Cell.width, Cell.blank, block]
    · cases blank

theorem Settled.get?_present_picture (settled : t.Settled) (display : t.resolution.OfDisplay)
    (sampled : raster.resolution.OfDisplay) (room : Page.HasRoom t.resolution t.shown.width t.shown.height)
    (left : column < t.resolution.width) (above : row < t.resolution.height) :
    (t.present raster panel).shown.get? (1 + column) (1 + row) =
      some (if (column, row) ∈ raster.litPixels then .lit t.foreground else .unlit) := by
  rw [settled.get?_present fun _ => narrow_draw_picture room (Nat.le_of_lt left)]
  exact get?_draw_picture display sampled room left above

theorem exists_new {settings : Settings} {foreground : Colour} (given : settings.foregroundColour = .ok foreground)
    (width height : Nat) :
    ∃ t, new width height settings = .ok t ∧ t.Settled ∧ t.resolution = settings.resolution ∧
      t.foreground = foreground ∧ t.shown.width = (usableSize width height).1 ∧
      t.shown.height = (usableSize width height).2 := by
  refine ⟨_, ?_, settled_blank settings.resolution foreground _ _, rfl, rfl, rfl, rfl⟩
  rw [new, given]
  rfl

end Terminal

namespace Renderer

theorem Fits.render {r : Renderer} {raster : Raster} (fits : r.Fits raster) (pixels : List UInt8) :
    r.Fits (r.render pixels raster).1 := by
  unfold Renderer.render
  split
  · exact fits.drawFrom 0 pixels
  · exact fits

/-- The pixels that are lit after a frame was drawn. -/
theorem mem_litPixels_render {r : Renderer} {raster : Raster} (fits : r.Fits raster)
    (scale : 0 < r.resolution.scale) {pixels : List UInt8} (complete : pixels.length = r.resolution.pixelCount)
    {column row : Nat} (left : column < r.resolution.width) (above : row < r.resolution.height) {pixel : UInt8}
    (listed : pixels[row * r.resolution.width + column]? = some pixel) :
    (column, row) ∈ (r.render pixels raster).1.litPixels ↔ pixel ≠ 0 := by
  rw [render_of_length complete, mem_litPixels_drawFrom fits complete scale, listed]
  simp [left, above]

end Renderer

/-- Where the terminal has room for the picture, each pixel of a frame that is presented has a cell inside the left box,
and that cell shows whether the pixel is set.  Whatever the terminal has shown before, nothing of it is left there. -/
theorem canvas_shows_set_pixels (settings : Settings) (scale : 1 ≤ settings.scale) (foreground : Colour)
    (given : settings.foregroundColour = .ok foreground) (width height : Nat)
    (room : 66 ≤ (Terminal.usableSize width height).1 ∧ 34 ≤ (Terminal.usableSize width height).2)
    (history : List Terminal.Order) (renderer : Renderer) (same : renderer.resolution = settings.resolution)
    (raster : Raster) (fits : renderer.Fits raster) (pixels : List UInt8) (complete : pixels.length = 2048)
    (panel : Panel) :
    ∃ t, Terminal.new width height settings = .ok t ∧
      let shown := ((t.run history).present (renderer.render pixels raster).1 panel).shown
      ∀ column row, column < 64 → row < 32 → ∃ pixel, pixels[row * 64 + column]? = some pixel ∧
        shown.get? (1 + column) (1 + row) = some (if pixel ≠ 0
          then { symbol := ['▄'], inks := { foreground := .rgb foreground } }
          else { symbol := [' '], inks := { background := .black } }) := by
  obtain ⟨t, made, settled, resolution, colour, across, down⟩ := Terminal.exists_new given width height
  refine ⟨t, made, ?_⟩
  intro shown column row left above
  obtain ⟨scaled, ink⟩ := renderer
  subst same
  have inside : row * 64 + column < pixels.length := by omega
  have listed := List.getElem?_eq_getElem inside
  have lit := Renderer.mem_litPixels_render fits scale complete left above listed
  -- Earlier pages do not change the size of the terminal, nor what it draws with.
  obtain ⟨resolution', colour', across', down'⟩ := t.run_shape history
  rw [resolution] at resolution'
  have room' : Page.HasRoom (t.run history).resolution (t.run history).shown.width (t.run history).shown.height := by
    rw [resolution', across', down', across, down]
    exact room
  have display : settings.resolution.OfDisplay := ⟨rfl, rfl⟩
  have seen : shown.get? (1 + column) (1 + row) = some _ :=
    (settled.run history).get?_present_picture (resolution' ▸ display) ((fits.render pixels).resolution ▸ display) room'
      (by rw [resolution']; exact left) (by rw [resolution']; exact above)
  refine ⟨_, listed, ?_⟩
  rw [seen, colour', colour]
  simp only [lit]
  rfl

/-- Two pixels of a frame, after a frame with all pixels set and a page with wide text beside the picture. -/
theorem canvas_after_full_frame :
    let renderer : Renderer := { resolution := {}, foreground := ⟨255, 0, 0⟩ }
    let full := (renderer.render (List.replicate 2048 1) (.empty {})).1
    let frame := (List.replicate 2048 0).set 70 1
    let history : List Terminal.Order := [.present full {}, .present (.empty {}) { label := "日本語" }]
    ∃ t, Terminal.new 98 34 {} = .ok t ∧
      let shown := ((t.run history).present (renderer.render frame full).1 {}).shown
      shown.get? 7 2 = some { symbol := ['▄'], inks := { foreground := .rgb ⟨0x26, 0xcd, 0xff⟩ } } ∧
      shown.get? 8 2 = some { symbol := [' '], inks := { background := .black } } := by
  intro renderer full frame history
  have fits : renderer.Fits full := renderer.fits_empty.render _
  obtain ⟨t, made, shows⟩ := canvas_shows_set_pixels {} (by decide) ⟨0x26, 0xcd, 0xff⟩ rfl 98 34
    (by decide) history renderer rfl full fits frame (by rw [List.length_set, List.length_replicate]) {}
  refine ⟨t, made, ?_, ?_⟩
  · obtain ⟨pixel, listed, seen⟩ := shows 6 1 (by decide) (by decide)
    cases listed
    exact seen
  · obtain ⟨pixel, listed, seen⟩ := shows 7 1 (by decide) (by decide)
    cases listed
    exact seen

/-- A terminal of which less is used than there is may have no cell for the last column of pixels, although it has as
many columns and rows as a page. -/
theorem canvas_squeezed_when_too_tall :
    ∃ t, Terminal.new 98 2000 {} = .ok t ∧
      ∀ history raster panel, ((t.run history).present raster panel).shown.get? (1 + 63) (1 + 0) = none := by
  have given : ({} : Settings).foregroundColour = .ok ⟨0x26, 0xcd, 0xff⟩ := rfl
  obtain ⟨t, made, -, -, -, across, -⟩ := Terminal.exists_new given 98 2000
  refine ⟨t, made, fun history raster panel => ?_⟩
  have used : (Terminal.usableSize 98 2000).1 = 56 := by decide +kernel
  obtain ⟨-, -, across', -⟩ := t.run_shape history
  have width : ((t.run history).present raster panel).shown.width = 56 := across'.trans (across.trans used)
  simp [Grid.get?, width]

end Chip8Console
