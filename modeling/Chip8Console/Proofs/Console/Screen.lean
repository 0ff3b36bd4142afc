import Chip8Console.Proofs.Console.Frames
import Chip8Console.Proofs.Display.Picture
import Chip8Console.Proofs.HostLoop

/-! # The screen of a run

A frame of the right length replaces the whole picture, and any other is skipped.  So the screen `Depicts` the
last good frame at any time, and nothing of what came before.  Together with the order in which the machine is
run and shown this says what is on the screen after every run of a console (`screen_depicts_last_frame`).
-/

namespace Chip8Console

open Happening (runs frames)

namespace Screen

/-- The frames that have the right length. -/
def whole (renderer : Renderer) (frames : List (List UInt8)) : List (List UInt8) :=
  frames.filter fun pixels => pixels.length = renderer.resolution.pixelCount

/-- The screen shows the last of these frames, and they were all counted. -/
structure Depicts (renderer : Renderer) (drawn : List (List UInt8)) (s : Screen) : Prop where
  renderer_eq : s.renderer = renderer
  fits : renderer.Fits s.raster
  frames_eq : s.frames = drawn.length
  get?_eq : ∀ x y, x < renderer.resolution.surfaceWidth → y < renderer.resolution.surfaceHeight →
    s.raster.get? x y =
      drawn.getLast?.bind fun pixels => renderer.shade (pixels.getD (renderer.resolution.pixelAt x y) 0)

variable {renderer : Renderer} {drawn : List (List UInt8)} {s : Screen}

theorem depicts_new (renderer : Renderer) : Depicts renderer [] (.new renderer) where
  renderer_eq := rfl
  fits := renderer.fits_empty
  frames_eq := rfl
  get?_eq _ _ _ _ := Raster.get?_empty _ _ _

theorem draw_of_wrong_length {pixels : List UInt8} (wrong : pixels.length ≠ s.renderer.resolution.pixelCount) :
    (s.draw pixels).1 = s := by
  obtain ⟨renderer, raster, frames⟩ := s
  simp [draw, Renderer.render, Renderer.check, wrong]

theorem drawAll_of_wrong_length {frames : List (List UInt8)}
    (wrong : ∀ pixels ∈ frames, pixels.length ≠ s.renderer.resolution.pixelCount) : s.drawAll frames = s := by
  induction frames with
  | nil => rfl
  | cons pixels frames ih =>
    rw [List.forall_mem_cons] at wrong
    rw [Screen.drawAll, List.foldl_cons, draw_of_wrong_length wrong.1]
    exact ih wrong.2

theorem Depicts.draw (d : Depicts renderer drawn s) (pixels : List UInt8) :
    Depicts renderer (drawn ++ whole renderer [pixels]) (s.draw pixels).1 := by
  by_cases right : pixels.length = renderer.resolution.pixelCount
  · obtain ⟨other, raster, frames⟩ := s
    obtain ⟨same, fits, rfl, -⟩ := d
    obtain rfl : renderer = other := same.symm
    have kept : whole renderer [pixels] = [pixels] := by simp [whole, right]
    simp only [Screen.draw, Renderer.render, Renderer.check, if_pos right, kept]
    refine ⟨rfl, fits.drawFrom 0 pixels, by simp, fun x y column row => ?_⟩
    rw [Renderer.get?_drawFrom_zero fits right column row]
    simp
  · have skipped : whole renderer [pixels] = [] := by simp [whole, right]
    rw [skipped, List.append_nil, draw_of_wrong_length (by rwa [d.renderer_eq])]
    exact d

theorem Depicts.drawAll (d : Depicts renderer drawn s) (frames : List (List UInt8)) :
    Depicts renderer (drawn ++ whole renderer frames) (s.drawAll frames) := by
  induction frames using List.reverseRecOn with
  | nil => simpa [whole, Screen.drawAll] using d
  | append_singleton frames pixels ih =>
    have split : whole renderer (frames ++ [pixels]) = whole renderer frames ++ whole renderer [pixels] :=
      List.filter_append ..
    rw [split, ← List.append_assoc, drawAll_concat]
    exact ih.draw pixels

end Screen

namespace Console

variable {σ δ : Type}

/-- What a console is made of, if its settings are accepted. -/
theorem new_eq_ok {machine : σ} {beeper : δ} {fetcher : Fetcher} {catalog : Catalog} {settings : Settings}
    {c : Console σ δ} (built : new machine beeper fetcher catalog settings = .ok c) :
    ∃ foreground, settings.foregroundColour = .ok foreground ∧
      c.session = .new machine settings.frameRate fetcher catalog ∧
      c.screen = .new { resolution := settings.resolution, foreground } := by
  unfold new at built
  cases validated : settings.validate with
  | error failure => simp [validated, bind, Except.bind] at built
  | ok =>
    cases coloured : settings.foregroundColour with
    | error failure => simp [validated, coloured, bind, Except.bind] at built
    | ok foreground =>
      simp only [validated, coloured, bind, Except.bind, pure, Except.pure, Except.ok.injEq] at built
      subst built
      exact ⟨foreground, rfl, rfl, rfl⟩

variable [Machine σ] [Beeper δ]

theorem frames_tick (c : Console σ δ) (now : Float) :
    frames (c.happenings (.tick now)) = if (c.tick now).2 = .executed then
      [Machine.contents (Machine.runCycle c.pollLoad.session.rig.machine).1] else [] := by
  simp only [happenings, frames, List.filterMap_append, Session.filterMap_run?_arrival]
  rcases c.tick_cases now with ⟨-, outcome, -⟩ | ⟨-, outcome, left⟩
  · rw [outcome]
    cases (c.pollLoad.session.scheduler.pacer.advance now).2 <;> rfl
  · rw [outcome, left.machine]
    rfl

theorem frames_step (c : Console σ δ) :
    frames (c.happenings (.event .step)) = [Machine.contents (Machine.runOpCode c.session.rig.machine).1] := by
  simp only [happenings, c.step_alike.machine]
  rfl

end Console

/-- The screen shows the last whole frame, of as many as were counted, and nothing else.  The machine is shown
right after each cycle and each instruction, and at no other time; what it shows then is drawn if it has
the right length, and otherwise leaves the screen as it is. -/
theorem screen_depicts_last_frame {σ δ : Type} [Machine σ] [Beeper δ] {machine : σ} {beeper : δ}
    {fetcher : Fetcher} {catalog : Catalog} {settings : Settings} {fresh : Console σ δ}
    (built : Console.new machine beeper fetcher catalog settings = .ok fresh) (tone : ToneGate δ)
    (actions : List Action) :
    let c := fresh.withTone tone
    let d := c.run actions
    let drawn := (frames (c.history actions)).filter (·.length = 2048)
    d.screen.frames = drawn.length ∧
    (∃ foreground, settings.foregroundColour = .ok foreground ∧
      ∀ x y, x < 64 * settings.scale → y < 32 * settings.scale →
        d.screen.raster.get? x y = drawn.getLast?.bind fun pixels =>
          if pixels.getD (y / settings.scale * 64 + x / settings.scale) 0 = 0 then none else some foreground) ∧
    (∀ action, (∀ pixels ∈ frames (d.happenings action), pixels.length ≠ 2048) →
      (d.act action).screen = d.screen) ∧
    -- Each refresh comes right after a call that runs the machine, and shows it as that has left it.
    ShownAlways d.session.rig.journal.toList ∧
    d.session.rig.journal.refreshes = d.session.rig.count .cycle + d.session.rig.count .opCode ∧
    (∀ now, frames (d.happenings (.tick now)) = if (d.tick now).2 = .executed then
      [Machine.contents (Machine.runCycle d.pollLoad.session.rig.machine).1] else []) ∧
    frames (d.happenings (.event .step)) = [Machine.contents (Machine.runOpCode d.session.rig.machine).1] := by
  intro c d drawn
  obtain ⟨foreground, coloured, session, screen⟩ := Console.new_eq_ok built
  let renderer : Renderer := { resolution := settings.resolution, foreground }
  -- A new console has an empty screen and an empty journal.
  have blank : Screen.Depicts renderer [] c.screen := by
    rw [show c.screen = fresh.screen from rfl, screen]
    exact Screen.depicts_new _
  have depicts : Screen.Depicts renderer drawn d.screen := by
    rw [c.screen_run actions]
    exact blank.drawAll _
  have empty : c.session.rig.journal = #[] := by
    rw [show c.session = fresh.session from rfl, session]
    rfl
  have always : ShownAlways d.session.rig.journal.toList :=
    Console.shownAlways_run (by rw [empty]; exact .nil) actions
  refine ⟨depicts.frames_eq, ⟨foreground, coloured, depicts.get?_eq⟩, ?_, always, ?_, d.frames_tick, d.frames_step⟩
  · intro action wrong
    rw [(d.shows_act action).screen_eq]
    apply Screen.drawAll_of_wrong_length
    rw [depicts.renderer_eq]
    exact wrong
  · rw [Journal.refreshes, always.countP_isRefresh, Journal.countP_isRun, Call.countP_isRun]
    rfl

/-- A machine that shows given frames, one after each cycle and each instruction. -/
structure Reel where
  frames : List (List UInt8)

instance : Machine Reel where
  reset r := r
  load r _ := r
  runCycle r := ({ frames := r.frames.tail }, none)
  runOpCode r := ({ frames := r.frames.tail }, none)
  press r _ := r
  release r _ := r
  contents r := r.frames.headD []
  registers _ := {}

/-- A cycle draws a frame, and the one of a step is cut off. -/
theorem screen_after_short_frame :
    let fresh : Console Reel Unit :=
      { session := .new ⟨[[], 1 :: List.replicate 2047 0, [1, 1]]⟩ 60 .promised .builtin
        screen := .new { resolution := {}, foreground := ⟨0x26, 0xcd, 0xff⟩ }
        tone := .muted }
    let d := fresh.run [.boot, .deliver 0 (.ok [0x12]), .tick 0, .tick 20, .event .step]
    Console.new fresh.session.rig.machine () .promised .builtin {} = .ok fresh ∧
      d.screen.frames = 1 ∧ d.session.rig.journal.refreshes = 2 ∧
      d.screen.raster.get? 7 7 = some ⟨0x26, 0xcd, 0xff⟩ ∧ d.screen.raster.get? 8 7 = none := by
  intro fresh d
  have coloured : ({} : Settings).foregroundColour = .ok ⟨0x26, 0xcd, 0xff⟩ := rfl
  have built : Console.new fresh.session.rig.machine () .promised .builtin {} = .ok fresh := by
    unfold Console.new
    rw [Settings.validate_default]
    simp only [coloured]
    rfl
  have drawn : (frames (fresh.history [.boot, .deliver 0 (.ok [0x12]), .tick 0, .tick 20, .event .step])).filter
      (·.length = 2048) = [1 :: List.replicate 2047 0] := by decide +kernel
  obtain ⟨counted, ⟨foreground, given, shown⟩, -, -, refreshes, -⟩ := screen_depicts_last_frame built .muted
    [.boot, .deliver 0 (.ok [0x12]), .tick 0, .tick 20, .event .step]
  have same : (fresh.withTone .muted).run [.boot, .deliver 0 (.ok [0x12]), .tick 0, .tick 20, .event .step] = d := rfl
  rw [same] at counted shown refreshes
  rw [show fresh.withTone .muted = fresh from rfl, drawn] at counted shown
  obtain rfl : (⟨0x26, 0xcd, 0xff⟩ : Colour) = foreground := Except.ok.inj (coloured.symm.trans given)
  have ran : d.session.rig.count .cycle + d.session.rig.count .opCode = 2 := by decide +kernel
  refine ⟨built, counted, refreshes.trans ran, ?_, ?_⟩
  · rw [shown 7 7 (by decide) (by decide)]
    decide +kernel
  · rw [shown 8 7 (by decide) (by decide)]
    decide +kernel

end Chip8Console
