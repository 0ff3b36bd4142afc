import Chip8Console.Proofs.Scheduling.Pace
import Chip8Console.Proofs.Scheduling.Run

/-! # The grid of whole intervals

However the host ticks, and whatever the player orders in between, the reference time of an exact
clock stays on the grid of whole intervals from the first tick.  `OnGrid` is the invariant;
`OnGrid.tick` says how one tick moves it along, and `phase_kept` what follows for a whole run: no
tick ever runs the machine ahead of the grid, and none leaves a frame out as long as the host ticks
more often than frames fall due.
-/

namespace Chip8Console

/-- The number of whole intervals from `origin` up to the reference. -/
def Scheduler.frames (s : Scheduler Rat) (origin : Rat) : Nat :=
  ((s.pacer.reference.getD origin - origin) / s.pacer.interval).floor.toNat

variable {σ ν : Type} [Machine σ] [View ν σ]

/-! ## One tick -/

namespace Bench

variable {b : Bench Rat σ ν}

/-- A tick waits and at most sets the reference, or it moves the reference up by the whole
intervals that have passed and counts a cycle if the scheduler runs. -/
theorem tick_exact (positive : 0 < b.scheduler.pacer.interval) (now : Rat) :
    let pacer := b.scheduler.pacer
    let reference := pacer.reference.getD now
    let b' := (b.tick now).1.scheduler
    ((b.tick now).2 = .waiting ∧ now - reference ≤ pacer.interval ∧
      b'.pacer = { pacer with reference := some reference } ∧ b'.cycles = b.scheduler.cycles) ∨
    ((b.tick now).2 ≠ .waiting ∧ pacer.interval < now - reference ∧ ∃ k : Nat, 1 ≤ k ∧
      k * pacer.interval ≤ now - reference ∧ now - reference < (k + 1) * pacer.interval ∧
      b'.pacer = { pacer with reference := some (reference + k * pacer.interval) } ∧
      b'.cycles = b.scheduler.cycles + if b.scheduler.running then 1 else 0) := by
  intro pacer reference b'
  have ticked := b.scheduler_tick now
  rcases Pacer.advance_exact positive now with ⟨early, asked⟩ | ⟨due, k, atLeastOne, reached, short, asked⟩
  · rw [asked] at ticked
    rcases ticked with ⟨-, outcome, same⟩ | ⟨absurd, -⟩ | ⟨absurd, -⟩
    · exact .inl ⟨outcome, early, by simp [b', same, pacer, reference], by simp [b', same]⟩
    all_goals cases absurd
  · right
    rw [asked] at ticked
    rcases ticked with ⟨absurd, -⟩ | ⟨-, stopped, outcome, same⟩ | ⟨-, running, outcome, same⟩
    · cases absurd
    · refine ⟨by simp [outcome], due, k, atLeastOne, reached, short, ?_, ?_⟩
      · simp [b', same, pacer, reference]
      · simp [b', same, stopped]
    · refine ⟨by simp [outcome], due, k, atLeastOne, reached, short, ?_, ?_⟩
      · simp [b', same, pacer, reference]
      · simp [b', same, running]

end Bench

/-! ## The invariant -/

/-- After ticks at the given times, the reference is `frames` whole intervals past the first. -/
structure OnGrid (times : List Rat) (s : Scheduler Rat) (frames : Nat) : Prop where
  reference : s.pacer.reference = times.head?.map (· + frames * s.pacer.interval)
  unstarted : times.length ≤ 1 → frames = 0
  cycles_le : s.cycles ≤ frames
  lag_le : ∀ latest ∈ times.getLast?, ∀ reference ∈ s.pacer.reference,
    latest - reference ≤ s.pacer.interval

namespace OnGrid

variable {times : List Rat} {s : Scheduler Rat} {frames : Nat}

theorem frames_eq (grid : OnGrid times s frames) (positive : 0 < s.pacer.interval) {origin : Rat}
    (first : ∀ time ∈ times.head?, time = origin) : s.frames origin = frames := by
  have counted : (s.pacer.reference.getD origin - origin) / s.pacer.interval = (frames : Int) := by
    rw [grid.reference]
    cases times with
    | nil => simp [grid.unstarted (Nat.zero_le 1)]
    | cons time times =>
      obtain rfl : time = origin := first time rfl
      simp only [List.head?_cons, Option.map_some, Option.getD_some, Int.cast_natCast]
      field_simp
      ring
  rw [Scheduler.frames, counted, Rat.floor_intCast, Int.toNat_natCast]

theorem reference_of_first (grid : OnGrid times s frames) {origin : Rat}
    (first : times.head? = some origin) :
    s.pacer.reference = some (origin + frames * s.pacer.interval) := by
  rw [grid.reference, first, Option.map_some]

theorem congr {s' : Scheduler Rat} (grid : OnGrid times s frames) (pacer : s'.pacer = s.pacer)
    (cycles : s'.cycles = s.cycles) : OnGrid times s' frames := by
  refine ⟨?_, grid.unstarted, ?_, ?_⟩
  · rw [pacer]; exact grid.reference
  · rw [cycles]; exact grid.cycles_le
  · rw [pacer]; exact grid.lag_le

omit [Machine σ] [View ν σ] in
theorem ofRate (rate : Rat) (rig : Rig σ) (view : ν) :
    OnGrid [] (Bench.ofRate rate rig view).scheduler 0 :=
  ⟨rfl, fun _ => rfl, le_rfl, fun _ none => by cases none⟩

/-- A tick leaves the number of intervals alone if it waits, and adds those that have passed since
the reference if it does not. -/
theorem tick {b : Bench Rat σ ν} (grid : OnGrid times b.scheduler frames)
    (positive : 0 < b.scheduler.pacer.interval) (now : Rat) :
    let elapsed := now - b.scheduler.pacer.reference.getD now
    ((b.tick now).2 = .waiting ∧ elapsed ≤ b.scheduler.pacer.interval ∧
      (b.tick now).1.scheduler.cycles = b.scheduler.cycles ∧
      OnGrid (times ++ [now]) (b.tick now).1.scheduler frames) ∨
    ((b.tick now).2 ≠ .waiting ∧ b.scheduler.pacer.interval < elapsed ∧ ∃ k : Nat, 1 ≤ k ∧
      k * b.scheduler.pacer.interval ≤ elapsed ∧ elapsed < (k + 1) * b.scheduler.pacer.interval ∧
      (b.tick now).1.scheduler.cycles =
        b.scheduler.cycles + (if b.scheduler.running then 1 else 0) ∧
      OnGrid (times ++ [now]) (b.tick now).1.scheduler (frames + k)) := by
  intro elapsed
  rcases Bench.tick_exact positive now with ⟨outcome, early, pacer, cycles⟩ |
    ⟨outcome, due, k, atLeastOne, reached, short, pacer, cycles⟩
  · refine .inl ⟨outcome, early, cycles, ?_, ?_, by rw [cycles]; exact grid.cycles_le, ?_⟩
    · rw [pacer, grid.reference]
      cases times with
      | nil => simp [grid.unstarted (Nat.zero_le 1)]
      | cons origin times => rfl
    · intro short
      rw [List.length_append, List.length_singleton] at short
      exact grid.unstarted (by omega)
    · rw [pacer]
      simpa using early
  · cases times with
    | nil =>
      -- Without a reference no time has passed, so a first tick cannot be due.
      simp only [grid.reference, List.head?_nil, Option.map_none, Option.getD_none] at due
      linarith
    | cons origin times =>
      refine .inr ⟨outcome, due, k, atLeastOne, reached, short, cycles, ?_, by simp, ?_, ?_⟩
      · rw [pacer]
        simp only [grid.reference, List.head?_cons, Option.map_some, Option.getD_some,
          List.cons_append]
        push_cast
        congr 1
        ring
      · have ahead := grid.cycles_le
        rw [cycles]
        split <;> omega
      · rw [pacer]
        simp only [List.getLast?_concat, Option.mem_def, Option.some.injEq]
        rintro latest rfl reference rfl
        linarith

theorem obey {b : Bench Rat σ ν} (grid : OnGrid times b.scheduler frames)
    (positive : 0 < b.scheduler.pacer.interval) (order : Order Rat) :
    ∃ frames', frames ≤ frames' ∧
      OnGrid (times ++ order.time?.toList) (b.obey order).scheduler frames' := by
  cases timed : order.time? with
  | none =>
    obtain ⟨pacer, cycles⟩ := b.obey_of_no_tick timed
    exact ⟨frames, le_rfl, by simpa using grid.congr pacer cycles⟩
  | some now =>
    rw [Order.eq_tick_of_time? timed]
    rcases grid.tick positive now with ⟨-, -, -, after⟩ | ⟨-, -, k, -, -, -, -, after⟩
    · exact ⟨frames, le_rfl, after⟩
    · exact ⟨frames + k, by omega, after⟩

/-- Every run keeps to the grid. -/
theorem run {rate : Rat} (positive : 0 < rate) (rig : Rig σ) (view : ν) (orders : List (Order Rat)) :
    ∃ frames, OnGrid (Order.times orders) ((Bench.ofRate rate rig view).run orders).scheduler frames := by
  induction orders using List.reverseRecOn with
  | nil => exact ⟨0, ofRate rate rig view⟩
  | append_singleton orders order ih =>
    obtain ⟨frames, grid⟩ := ih
    have spaced : 0 < ((Bench.ofRate rate rig view).run orders).scheduler.pacer.interval := by
      rw [Bench.interval_run]
      exact div_pos (by norm_num) positive
    obtain ⟨frames', -, after⟩ := grid.obey spaced order
    exact ⟨frames', by simpa using after⟩

end OnGrid

end Chip8Console
