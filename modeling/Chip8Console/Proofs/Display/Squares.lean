import Chip8Console.Proofs.Display.Picture
import Mathlib.Logic.ExistsUnique

/-! # The squares of a frame

A renderer knows nothing of a surface but what it can ask of it, so all that it does is a list of calls, and the same
list whatever the surface is (`Renderer.render_eq_after`).  A `SurfaceLog` tells which: it is the surface that only
remembers what it was asked for.

There is one call for each pixel, and their squares tile the surface (`squares_tile_surface`).
-/

namespace Chip8Console

/-! ## Squares -/

namespace Square

/-- A point lies in the square. -/
def Covers (q : Square) (x y : Nat) : Prop :=
  (q.x ≤ x ∧ x < q.x + q.side) ∧ q.y ≤ y ∧ y < q.y + q.side

instance (q : Square) (x y : Nat) : Decidable (q.Covers x y) :=
  inferInstanceAs (Decidable (_ ∧ _))

/-- The square does not reach over the right or the lower edge. -/
def Within (q : Square) (width height : Nat) : Prop :=
  q.x + q.side ≤ width ∧ q.y + q.side ≤ height

/-- No point lies in both squares. -/
def Apart (p q : Square) : Prop :=
  ∀ x y, p.Covers x y → ¬ q.Covers x y

theorem Within.inside {q : Square} {width height x y : Nat} (within : q.Within width height) (covers : q.Covers x y) :
    x < width ∧ y < height := by
  obtain ⟨right, lower⟩ := within
  obtain ⟨⟨-, column⟩, -, row⟩ := covers
  omega

end Square

namespace Resolution

/-- The square that shows a pixel. -/
def square (r : Resolution) (index : Nat) : Square where
  x := index % r.width * r.scale
  y := index / r.width * r.scale
  side := r.scale

variable {r : Resolution} {index x y : Nat}

theorem square_within (inside : index < r.pixelCount) : (r.square index).Within r.surfaceWidth r.surfaceHeight := by
  have width : 0 < r.width := Nat.pos_of_mul_pos_right (Nat.lt_of_le_of_lt (Nat.zero_le index) inside)
  have column : index % r.width + 1 ≤ r.width := Nat.mod_lt index width
  have row : index / r.width + 1 ≤ r.height := Nat.div_lt_of_lt_mul inside
  -- A square ends where the next column and the next row of squares begin.
  constructor
  · calc
      (r.square index).x + r.scale = (index % r.width + 1) * r.scale := (Nat.succ_mul _ _).symm
      _ ≤ r.surfaceWidth := Nat.mul_le_mul_right _ column
  · calc
      (r.square index).y + r.scale = (index / r.width + 1) * r.scale := (Nat.succ_mul _ _).symm
      _ ≤ r.surfaceHeight := Nat.mul_le_mul_right _ row

theorem square_covers_iff (column : x < r.surfaceWidth) : (r.square index).Covers x y ↔ index = r.pixelAt x y :=
  pixelAt_iff column y index

theorem squares_apart {other : Nat} (inside : index < r.pixelCount) (different : index ≠ other) :
    (r.square index).Apart (r.square other) := by
  intro x y covers covers'
  -- A point in both squares would have to show both pixels.
  have column := ((square_within inside).inside covers).1
  rw [square_covers_iff column] at covers covers'
  exact different (covers.trans covers'.symm)

end Resolution

/-! ## Calls on a surface -/

inductive SurfaceCall where
  | fill (square : Square) (colour : Colour)
  | clear (square : Square)
deriving DecidableEq

def SurfaceCall.square : SurfaceCall → Square
  | .fill square _ => square
  | .clear square => square

namespace Surface

variable {s : Type} [Surface s]

def obey (surface : s) : SurfaceCall → s
  | .fill ⟨x, y, side⟩ colour => fillSquare surface x y side colour
  | .clear ⟨x, y, side⟩ => clearSquare surface x y side

/-- The surface after it has gone through calls. -/
def after (surface : s) (calls : List SurfaceCall) : s :=
  calls.foldl obey surface

end Surface

/-- All that a surface was asked for, in order. -/
structure SurfaceLog where
  calls : List SurfaceCall := []

instance : Surface SurfaceLog where
  fillSquare log x y side colour := ⟨log.calls ++ [.fill ⟨x, y, side⟩ colour]⟩
  clearSquare log x y side := ⟨log.calls ++ [.clear ⟨x, y, side⟩]⟩

theorem SurfaceLog.calls_obey (log : SurfaceLog) (call : SurfaceCall) :
    (Surface.obey log call).calls = log.calls ++ [call] := by
  cases call <;> rfl

theorem SurfaceLog.calls_after (log : SurfaceLog) (calls : List SurfaceCall) :
    (Surface.after log calls).calls = log.calls ++ calls := by
  induction calls generalizing log with
  | nil => simp [Surface.after]
  | cons call calls ih =>
    have later : (Surface.after log (call :: calls)).calls = (Surface.obey log call).calls ++ calls := ih _
    rw [later, calls_obey, List.append_assoc, List.singleton_append]

namespace Renderer

/-- What a renderer asks of a surface for a frame. -/
def calls (r : Renderer) (pixels : List UInt8) : List SurfaceCall :=
  (r.render pixels ({} : SurfaceLog)).1.calls

/-- What is asked for one pixel. -/
def callFor (r : Renderer) (index : Nat) (pixel : UInt8) : SurfaceCall :=
  if pixel = 0 then .clear (r.resolution.square index) else .fill (r.resolution.square index) r.foreground

@[simp] theorem square_callFor (r : Renderer) (index : Nat) (pixel : UInt8) :
    (r.callFor index pixel).square = r.resolution.square index := by
  unfold callFor
  split <;> rfl

section

variable {s : Type} [Surface s]

theorem drawPixel_eq_obey (r : Renderer) (index : Nat) (pixel : UInt8) (surface : s) :
    r.drawPixel index pixel surface = Surface.obey surface (r.callFor index pixel) := by
  unfold drawPixel callFor
  split <;> rfl

theorem drawFrom_eq_after (r : Renderer) (index : Nat) (pixels : List UInt8) (surface : s) :
    r.drawFrom index pixels surface = Surface.after surface (pixels.mapIdx fun i => r.callFor (index + i)) := by
  induction pixels generalizing index surface with
  | nil => rfl
  | cons pixel pixels ih =>
    have later : (fun i => r.callFor (index + (i + 1))) = fun i => r.callFor (index + 1 + i) := by
      funext i
      rw [Nat.add_right_comm, Nat.add_assoc]
    rw [drawFrom, ih, drawPixel_eq_obey, List.mapIdx_cons, later]
    rfl

end

variable {r : Renderer} {pixels : List UInt8}

theorem calls_of_length (complete : pixels.length = r.resolution.pixelCount) :
    r.calls pixels = pixels.mapIdx r.callFor := by
  simp [calls, render_of_length complete, drawFrom_eq_after, SurfaceLog.calls_after]

theorem calls_of_wrong_length (wrong : pixels.length ≠ r.resolution.pixelCount) : r.calls pixels = [] := by
  rw [calls, render_of_wrong_length wrong]

/-- A surface is asked for the calls of the frame one after the other, and for nothing else. -/
theorem render_eq_after {s : Type} [Surface s] (r : Renderer) (pixels : List UInt8) (surface : s) :
    (r.render pixels surface).1 = Surface.after surface (r.calls pixels) := by
  by_cases complete : pixels.length = r.resolution.pixelCount
  · rw [calls_of_length complete, render_of_length complete, drawFrom_eq_after]
    simp
  · rw [calls_of_wrong_length complete, render_of_wrong_length complete]
    rfl

theorem length_calls (complete : pixels.length = r.resolution.pixelCount) :
    (r.calls pixels).length = r.resolution.pixelCount := by
  rw [calls_of_length complete, List.length_mapIdx, complete]

theorem getElem?_calls (complete : pixels.length = r.resolution.pixelCount) (index : Nat) :
    (r.calls pixels)[index]? = pixels[index]?.map (r.callFor index) := by
  rw [calls_of_length complete, List.getElem?_mapIdx]

/-! ## The tiling -/

variable {index : Nat} {call : SurfaceCall}

theorem square_of_getElem? (complete : pixels.length = r.resolution.pixelCount)
    (there : (r.calls pixels)[index]? = some call) :
    index < r.resolution.pixelCount ∧ call.square = r.resolution.square index := by
  constructor
  · rw [← length_calls complete]
    exact (List.getElem?_eq_some_iff.mp there).1
  · rw [getElem?_calls complete] at there
    obtain ⟨pixel, -, rfl⟩ := Option.map_eq_some_iff.mp there
    exact square_callFor r index pixel

theorem calls_apart (complete : pixels.length = r.resolution.pixelCount) :
    (r.calls pixels).Pairwise fun a b => a.square.Apart b.square := by
  rw [List.pairwise_iff_getElem]
  intro i j first second before
  obtain ⟨inside, here⟩ := square_of_getElem? complete (List.getElem?_eq_getElem first)
  obtain ⟨-, there⟩ := square_of_getElem? complete (List.getElem?_eq_getElem second)
  rw [here, there]
  exact Resolution.squares_apart inside (Nat.ne_of_lt before)

theorem calls_within (complete : pixels.length = r.resolution.pixelCount) (among : call ∈ r.calls pixels) :
    call.square.Within r.resolution.surfaceWidth r.resolution.surfaceHeight := by
  obtain ⟨index, there⟩ := List.mem_iff_getElem?.mp among
  obtain ⟨inside, here⟩ := square_of_getElem? complete there
  rw [here]
  exact Resolution.square_within inside

theorem existsUnique_call (complete : pixels.length = r.resolution.pixelCount) {x y : Nat}
    (column : x < r.resolution.surfaceWidth) (row : y < r.resolution.surfaceHeight) :
    ∃! i : Nat, ∃ call, (r.calls pixels)[i]? = some call ∧ call.square.Covers x y := by
  have place : r.resolution.pixelAt x y < (r.calls pixels).length := by
    rw [length_calls complete]
    exact Resolution.pixelAt_lt column row
  have here := List.getElem?_eq_getElem place
  -- The call for a point is that for the pixel which it shows.
  refine ⟨r.resolution.pixelAt x y, ⟨_, here, ?_⟩, ?_⟩
  · rw [(square_of_getElem? complete here).2]
    exact (Resolution.square_covers_iff column).mpr rfl
  · rintro i ⟨call, there, covers⟩
    rw [(square_of_getElem? complete there).2] at covers
    exact (Resolution.square_covers_iff column).mp covers

end Renderer

/-- For a frame a surface is asked for one square for each pixel, row by row, and every point of the surface lies in
exactly one of them.  For a frame of another length it is asked for nothing. -/
theorem squares_tile_surface (r : Renderer) (pixels : List UInt8) :
    let w := r.resolution.width
    let h := r.resolution.height
    let scale := r.resolution.scale
    let calls := r.calls pixels
    (∀ (s : Type) [Surface s] (surface : s), (r.render pixels surface).1 = Surface.after surface calls) ∧
    (pixels.length = w * h →
      (∀ (s : Type) [Surface s] (surface : s), (r.render pixels surface).2 = .ok ()) ∧
      calls.length = w * h ∧
      (∀ (i : Nat) (pixel : UInt8), pixels[i]? = some pixel →
        let square : Square := { x := i % w * scale, y := i / w * scale, side := scale }
        calls[i]? = some (if pixel ≠ 0 then .fill square r.foreground else .clear square)) ∧
      (calls.Pairwise fun a b => a.square.Apart b.square) ∧
      (∀ call ∈ calls, call.square.Within (w * scale) (h * scale)) ∧
      ∀ x y, x < w * scale → y < h * scale →
        ∃! i : Nat, ∃ call, calls[i]? = some call ∧ call.square.Covers x y) ∧
    (pixels.length ≠ w * h →
      calls = [] ∧
      ∀ (s : Type) [Surface s] (surface : s),
        r.render pixels surface = (surface, .error (.malformedFrame (w * h) pixels.length))) := by
  intro w h scale calls
  refine ⟨fun s _ surface => r.render_eq_after pixels surface, ?_, ?_⟩
  · intro complete
    refine ⟨?_, Renderer.length_calls complete, ?_, Renderer.calls_apart complete,
      fun _ => Renderer.calls_within complete, fun _ _ => Renderer.existsUnique_call complete⟩
    · intro s _ surface
      rw [Renderer.render_of_length complete]
    · intro i pixel given square
      rw [Renderer.getElem?_calls complete, given, Option.map_some, Renderer.callFor, ite_not]
      rfl
  · intro wrong
    exact ⟨Renderer.calls_of_wrong_length wrong, fun s _ surface => Renderer.render_of_wrong_length wrong⟩

/-- A frame of two rows, whose last square reaches into the corner, and one that is too long. -/
theorem squares_tile_two_rows :
    let r : Renderer := { resolution := ⟨2, 2, 3⟩, foreground := ⟨0x26, 0xcd, 0xff⟩ }
    (r.calls [0, 7, 0, 1])[2]? = some (.clear ⟨0, 3, 3⟩) ∧
    (r.calls [0, 7, 0, 1])[3]? = some (.fill ⟨3, 3, 3⟩ r.foreground) ∧
    (∃! i : Nat, ∃ call, (r.calls [0, 7, 0, 1])[i]? = some call ∧ call.square.Covers 5 5) ∧
    r.calls [0, 7, 0, 1, 1] = [] := by
  intro r
  obtain ⟨-, tiled, -⟩ := squares_tile_surface r [0, 7, 0, 1]
  obtain ⟨-, -, asked, -, -, covered⟩ := tiled rfl
  obtain ⟨-, -, refused⟩ := squares_tile_surface r [0, 7, 0, 1, 1]
  exact ⟨(asked 2 0 rfl).trans (by decide), (asked 3 1 rfl).trans (by decide),
    covered 5 5 (by decide) (by decide), (refused (by decide)).1⟩

end Chip8Console
