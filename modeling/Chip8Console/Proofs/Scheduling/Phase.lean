import Chip8Console.Proofs.Scheduling.Steady

/-! # Phase

The main statement on exact clocks, `phase_kept`: whatever the host and the player do, the reference
stays on the grid of whole intervals from the first tick, never goes back and is never more than one
interval behind the latest tick, and the machine has never run more cycles than there are intervals
on the grid.  A host that always ticks within less than an interval gets a cycle for each of them.
-/

namespace Chip8Console

variable {σ ν : Type} [Machine σ] [View ν σ]

/-- A host that always ticks within less than an interval never lets two frames fall due at once. -/
theorem no_slip {interval origin first second : Rat} {times : List Rat}
    (quick : times.IsChain fun earlier later => earlier ≤ later ∧ later - earlier < interval) :
    ¬ Slip interval origin times first second := by
  rintro ⟨consecutive, -, apart⟩
  have pair := List.IsChain.infix quick consecutive
  have gap := (List.isChain_pair.mp pair).2
  linarith

/-- What a tick does to the number of intervals on the grid. -/
theorem frames_tick {b : Bench Rat σ ν} {times : List Rat} {origin : Rat} {frames : Nat}
    (grid : OnGrid times b.scheduler frames) (positive : 0 < b.scheduler.pacer.interval)
    (first : times.head? = some origin) (now : Rat) :
    let whole := ((now - (origin + frames * b.scheduler.pacer.interval)) /
      b.scheduler.pacer.interval).floor
    ((b.tick now).2 = .waiting → (b.tick now).1.scheduler.frames origin = frames) ∧
    ((b.tick now).2 ≠ .waiting →
      1 ≤ whole ∧ ((b.tick now).1.scheduler.frames origin : Int) = frames + whole) := by
  intro whole
  have spaced : 0 < (b.tick now).1.scheduler.pacer.interval := by
    change 0 < (b.obey (.tick now)).scheduler.pacer.interval
    rwa [Bench.interval_obey]
  have same : ∀ time ∈ (times ++ [now]).head?, time = origin := by simp [first]
  have ticked := grid.tick positive now
  rw [grid.reference_of_first first, Option.getD_some] at ticked
  rcases ticked with ⟨outcome, -, -, after⟩ | ⟨outcome, -, k, atLeastOne, reached, short, -, after⟩
  · exact ⟨fun _ => after.frames_eq spaced same, fun moved => absurd outcome moved⟩
  · refine ⟨fun waiting => absurd waiting outcome, fun _ => ?_⟩
    have counted : whole = k := Pacer.floor_elapsed positive reached short
    rw [after.frames_eq spaced same, counted]
    exact ⟨by exact_mod_cast atLeastOne, by push_cast; rfl⟩

theorem first_of_earlier {earlier orders : List (Order Rat)} {origin : Rat}
    (before : earlier <+: orders) (first : ∀ time ∈ (Order.times orders).head?, time = origin) :
    ∀ time ∈ (Order.times earlier).head?, time = origin := by
  intro time isFirst
  obtain ⟨rest, rfl⟩ := before
  apply first
  simp only [Order.times, List.filterMap_append, List.head?_append, Option.mem_def] at isFirst ⊢
  rw [isFirst]
  rfl

section

variable {rate : Rat} (positive : 0 < rate) (rig : Rig σ) (view : ν)
include positive

theorem spaced (orders : List (Order Rat)) :
    0 < ((Bench.ofRate rate rig view).run orders).scheduler.pacer.interval := by
  rw [Bench.interval_run]
  exact div_pos (by norm_num) positive

/-- No order takes a frame of the grid back. -/
theorem frames_mono {earlier orders : List (Order Rat)} {origin : Rat} (before : earlier <+: orders)
    (first : ∀ time ∈ (Order.times orders).head?, time = origin) :
    ((Bench.ofRate rate rig view).run earlier).scheduler.frames origin ≤
      ((Bench.ofRate rate rig view).run orders).scheduler.frames origin := by
  obtain ⟨rest, rfl⟩ := before
  induction rest using List.reverseRecOn with
  | nil => simp
  | append_singleton rest order ih =>
    have shorter : earlier ++ rest <+: earlier ++ (rest ++ [order]) := by simp
    have firstBefore := first_of_earlier shorter first
    refine (ih firstBefore).trans ?_
    obtain ⟨frames, grid⟩ := OnGrid.run positive rig view (earlier ++ rest)
    obtain ⟨frames', more, after⟩ := grid.obey (spaced positive rig view _) order
    rw [← Order.times_concat] at after
    rw [← List.append_assoc] at first ⊢
    rw [← Bench.run_concat] at after
    rwa [grid.frames_eq (spaced positive rig view _) firstBefore,
      after.frames_eq (spaced positive rig view _) first]

/-- At no time has the machine run more cycles than there are frames on the grid. -/
theorem cycles_le_frames {orders : List (Order Rat)} {origin : Rat}
    (first : ∀ time ∈ (Order.times orders).head?, time = origin) :
    ((Bench.ofRate rate rig view).run orders).scheduler.cycles ≤
      ((Bench.ofRate rate rig view).run orders).scheduler.frames origin := by
  obtain ⟨frames, grid⟩ := OnGrid.run positive rig view orders
  rw [grid.frames_eq (spaced positive rig view _) first]
  exact grid.cycles_le

end

theorem phase_kept {rate : Rat} (positive : 0 < rate) (rig : Rig σ) (view : ν)
    {orders : List (Order Rat)} {origin : Rat} (first : (Order.times orders).head? = some origin) :
    let interval := 1000 / rate
    let start := Bench.ofRate rate rig view
    let b := start.run orders
    let frames := b.scheduler.frames origin
    -- The reference is on the grid, and not far behind the latest tick.
    b.scheduler.pacer.reference = some (origin + frames * interval) ∧
    (∀ latest ∈ (Order.times orders).getLast?, latest - (origin + frames * interval) ≤ interval) ∧
    (Order.times orders = [origin] → frames = 0) ∧
    -- At no time was it ahead of where it is now, or the machine ahead of it.
    (∀ earlier, earlier <+: orders →
      (start.run earlier).scheduler.frames origin ≤ frames ∧
      (start.run earlier).scheduler.cycles ≤ (start.run earlier).scheduler.frames origin) ∧
    -- Only a tick that does not wait moves it, by the whole intervals that have passed since.
    (∀ order, order.time? = none → (b.obey order).scheduler.frames origin = frames) ∧
    (∀ now, (b.tick now).2 = .waiting → (b.tick now).1.scheduler.frames origin = frames) ∧
    (∀ now, (b.tick now).2 ≠ .waiting →
      let whole := ((now - (origin + frames * interval)) / interval).floor
      1 ≤ whole ∧ ((b.tick now).1.scheduler.frames origin : Int) = frames + whole) ∧
    -- A host that is quick enough gets every frame.
    ((Order.times orders).IsChain (fun earlier later => earlier ≤ later ∧ later - earlier < interval) →
      start.RunsThroughout orders → b.scheduler.cycles = frames ∧
      ∀ latest ∈ (Order.times orders).getLast?,
        0 ≤ latest - (origin + frames * interval) ∧ latest - (origin + frames * interval) ≤ interval) := by
  intro interval start b frames
  have same : ∀ time ∈ (Order.times orders).head?, time = origin := by simp [first]
  have spacing : b.scheduler.pacer.interval = interval := Bench.interval_run _ _
  have wide := spaced positive rig view orders
  obtain ⟨counted, grid⟩ := OnGrid.run positive rig view orders
  obtain rfl : frames = counted := grid.frames_eq wide same
  have reference := grid.reference_of_first first
  have lag := fun latest isLast => grid.lag_le latest isLast _ reference
  rw [spacing] at reference lag
  refine ⟨reference, lag, fun once => grid.unstarted (by simp [once]), ?_, ?_, ?_, ?_, ?_⟩
  · intro earlier before
    exact ⟨frames_mono positive rig view before same,
      cycles_le_frames positive rig view (first_of_earlier before same)⟩
  · intro order noTick
    obtain ⟨pacer, -⟩ := b.obey_of_no_tick noTick
    simp only [Scheduler.frames, pacer, frames]
  · exact fun now => (frames_tick grid wide first now).1
  · intro now
    have moved := (frames_tick grid wide first now).2
    rwa [spacing] at moved
  · intro quick running
    obtain ⟨latest, last⟩ : ∃ latest, (Order.times orders).getLast? = some latest := by
      cases isLast : (Order.times orders).getLast? with
      | none => simp [List.getLast?_eq_none_iff.mp isLast] at first
      | some latest => exact ⟨latest, rfl⟩
    have steady : Steady interval (Order.times orders) := quick.imp fun _ _ gap => ⟨gap.1, gap.2.le⟩
    obtain ⟨others, again, reached, standing⟩ := standing_run positive rig view first last steady running
    obtain rfl : frames = others := again.frames_eq wide same
    refine ⟨?_, fun time isLast => ?_⟩
    · cases standing with
      | level even _ _ => exact even
      | slipped _ _ slip _ => exact absurd slip.choose_spec (no_slip quick)
      | behind _ _ slip => exact absurd slip.choose_spec.choose_spec.1 (no_slip quick)
    · obtain rfl : latest = time := by simpa [last] using isLast
      exact ⟨sub_nonneg.mpr reached, lag latest last⟩

/-- A host with some jitter, at a rate of one frame to a millisecond. -/
theorem phase_kept_with_jitter :
    let orders : List (Order Rat) :=
      [.start, .tick 10, .tick (21 / 2), .step, .tick (45 / 4), .tick (59 / 5), .tick (127 / 10)]
    let b := (Bench.ofRate (1000 : Rat) { machine := ({} : Puppet) } ({} : RefreshCount)).run orders
    (0 : Rat) < 1000 ∧ (Order.times orders).head? = some 10 ∧
      b.scheduler.pacer.reference = some ((10 : Rat) + b.scheduler.frames 10 * (1000 / 1000)) ∧
      b.scheduler.cycles = b.scheduler.frames 10 := by
  intro orders
  have first : (Order.times orders).head? = some 10 := rfl
  have running : (Bench.ofRate (1000 : Rat) { machine := ({} : Puppet) }
      ({} : RefreshCount)).RunsThroughout orders := Bench.runsThroughout_start _ (by decide)
  have jitter : (Order.times orders).IsChain
      fun earlier later => earlier ≤ later ∧ later - earlier < 1000 / 1000 := by
    simp only [orders, Order.times, Order.time?, List.filterMap_cons, List.filterMap_nil]
    norm_num
  obtain ⟨reference, -, -, -, -, -, -, quick⟩ :=
    phase_kept (by norm_num : (0 : Rat) < 1000) { machine := ({} : Puppet) } ({} : RefreshCount) first
  exact ⟨by norm_num, first, reference, (quick jitter running).1⟩

end Chip8Console
