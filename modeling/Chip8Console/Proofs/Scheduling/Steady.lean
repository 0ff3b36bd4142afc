import Chip8Console.Proofs.Scheduling.Grid
import Mathlib.Data.List.Chain

/-! # Steady hosts

What becomes of the frames when the host ticks at least as often as they fall due.  A frame is lost
in one way only: a tick comes at the very moment at which a frame falls due, and so still waits, and
the next tick comes exactly one interval later, when two frames are due at once.  `Slip` is such a
pair of ticks, and `Standing` the count of cycles beside the grid before, right after and beyond the
first of them.
-/

namespace Chip8Console

/-- The clock does not go back, and no two ticks are further apart than an interval. -/
def Steady (interval : Rat) (times : List Rat) : Prop :=
  times.IsChain fun earlier later => earlier ≤ later ∧ later - earlier ≤ interval

/-- Two ticks in a row, one interval apart, the first of them whole intervals after `origin`. -/
structure Slip (interval origin : Rat) (times : List Rat) (first second : Rat) : Prop where
  consecutive : [first, second] <:+: times
  onGrid : ∃ n : Nat, 0 < n ∧ first = origin + n * interval
  apart : second = first + interval

/-- How the count of cycles stands to the number of frames on the grid. -/
inductive Standing (interval origin : Rat) (times : List Rat) (latest : Rat) (cycles frames : Nat) :
    Prop where
  /-- No frame was lost. -/
  | level (even : cycles = frames) (none : ∀ first second, ¬ Slip interval origin times first second)
      (fresh : origin + frames * interval = latest → latest = origin)
  /-- The latest tick lost the first frame. -/
  | slipped (odd : cycles + 1 = frames) (reached : origin + frames * interval = latest)
      (slip : ∃ first, Slip interval origin times first latest)
      (only : ∀ first second, Slip interval origin times first second → second = latest)
  /-- A frame was lost, and time has gone on. -/
  | behind (odd : cycles + 1 ≤ frames) (late : (cycles + 1) * interval < latest - origin)
      (slip : ∃ first second, Slip interval origin times first second ∧ second < latest)

section

variable {interval origin latest now : Rat} {times : List Rat} {cycles frames : Nat}

theorem Slip.concat {first second : Rat} (slip : Slip interval origin times first second)
    (now : Rat) : Slip interval origin (times ++ [now]) first second :=
  ⟨slip.consecutive.trans (List.prefix_append times [now]).isInfix, slip.onGrid, slip.apart⟩

/-- A pair of ticks in a row is an earlier pair, or it ends with the latest tick. -/
theorem slip_concat (last : times.getLast? = some latest) {first second : Rat}
    (slip : Slip interval origin (times ++ [now]) first second) :
    Slip interval origin times first second ∨ (first = latest ∧ second = now) := by
  obtain ⟨consecutive, onGrid, apart⟩ := slip
  rcases List.infix_concat_iff.mp consecutive with atEnd | before
  · right
    rcases List.suffix_concat_iff.mp atEnd with empty | ⟨front, split, isSuffix⟩
    · cases empty
    · obtain ⟨rfl, equal⟩ := List.append_inj' (show [first] ++ [second] = front ++ [now] from split) rfl
      have isLast := List.singleton_suffix_iff_getLast?_eq_some.mp isSuffix
      rw [last] at isLast
      exact ⟨(Option.some.inj isLast).symm, List.singleton_inj.mp equal⟩
  · exact .inl ⟨before, onGrid, apart⟩

theorem Standing.first (interval origin : Rat) : Standing interval origin [origin] origin 0 0 := by
  refine .level rfl ?_ fun _ => rfl
  intro first second slip
  have long := slip.consecutive.length_le
  simp at long

theorem Standing.wait (standing : Standing interval origin times latest cycles frames)
    (positive : 0 < interval) (last : times.getLast? = some latest)
    (reached : origin + frames * interval ≤ latest) (onward : latest ≤ now)
    (early : now - (origin + frames * interval) ≤ interval) :
    Standing interval origin (times ++ [now]) now cycles frames := by
  cases standing with
  | level even none fresh =>
    refine .level even ?_ ?_
    · intro first second slip
      rcases slip_concat last slip with before | ⟨rfl, rfl⟩
      · exact none _ _ before
      · -- The tick before would have executed the frame, as it came when the reference did.
        obtain ⟨-, ⟨n, later, onGrid⟩, apart⟩ := slip
        have same := fresh (by linarith)
        have moved : (0 : Rat) < n * interval := by positivity
        linarith
    · intro atReference
      have same := fresh (by linarith)
      linarith
  | slipped odd same slip only =>
    rcases onward.eq_or_lt with rfl | later
    · obtain ⟨first, slip⟩ := slip
      refine .slipped odd same ⟨first, slip.concat latest⟩ ?_
      intro first second slip
      rcases slip_concat last slip with before | ⟨-, rfl⟩
      · exact only _ _ before
      · rfl
    · obtain ⟨first, slip⟩ := slip
      refine .behind odd.le ?_ ⟨first, latest, slip.concat now, later⟩
      have count : (cycles : Rat) + 1 = frames := by exact_mod_cast odd
      rw [count]
      linarith
  | behind odd late slip =>
    obtain ⟨first, second, slip, before⟩ := slip
    exact .behind odd (by linarith) ⟨first, second, slip.concat now, by linarith⟩

theorem Standing.execute (standing : Standing interval origin times latest cycles frames)
    (positive : 0 < interval) (last : times.getLast? = some latest)
    (lag : latest - (origin + frames * interval) ≤ interval)
    (onward : latest ≤ now) (often : now - latest ≤ interval) {k : Nat} (atLeastOne : 1 ≤ k)
    (due : interval < now - (origin + frames * interval))
    (reached : k * interval ≤ now - (origin + frames * interval))
    (short : now - (origin + frames * interval) < (k + 1) * interval) :
    Standing interval origin (times ++ [now]) now (cycles + 1) (frames + k) := by
  cases standing with
  | level even none fresh =>
    have atMostTwo : k ≤ 2 := by
      have bound : (k : Rat) * interval ≤ 2 * interval := by linarith
      exact_mod_cast le_of_mul_le_mul_right bound positive
    obtain rfl | rfl : k = 1 ∨ k = 2 := by omega
    · refine .level (by omega) ?_ ?_
      · intro first second slip
        rcases slip_concat last slip with before | ⟨rfl, rfl⟩
        · exact none _ _ before
        · -- Both ticks would be on the grid, and no point of it lies strictly between one and two
          -- intervals past the reference.
          obtain ⟨-, ⟨n, -, onGrid⟩, apart⟩ := slip
          have low : ((frames : Rat)) * interval < n * interval := by linarith
          have high : (n : Rat) * interval < (frames + 1) * interval := by
            push_cast at short
            linarith
          have above : frames < n := by exact_mod_cast lt_of_mul_lt_mul_right low positive.le
          have below : n < frames + 1 := by exact_mod_cast lt_of_mul_lt_mul_right high positive.le
          omega
      · intro atReference
        push_cast at atReference
        linarith
    · have before : latest = origin + (frames + 1 : Nat) * interval := by
        push_cast at reached ⊢
        linarith
      have apart : now = latest + interval := by
        push_cast at reached before
        linarith
      refine .slipped (by omega) ?_ ⟨latest, ?_, ⟨frames + 1, by omega, before⟩, apart⟩ ?_
      · push_cast at before ⊢
        linarith
      · obtain ⟨front, rfl⟩ := List.singleton_suffix_iff_getLast?_eq_some.mpr last
        exact ⟨front, [], by simp⟩
      · intro first second slip
        rcases slip_concat last slip with earlier | ⟨-, rfl⟩
        · exact absurd earlier (none _ _)
        · rfl
  | slipped odd same slip only => linarith
  | behind odd late slip =>
    obtain ⟨first, second, slip, before⟩ := slip
    refine .behind (by omega) ?_ ⟨first, second, slip.concat now, by linarith⟩
    have count : ((cycles : Rat) + 1) * interval ≤ frames * interval :=
      mul_le_mul_of_nonneg_right (by exact_mod_cast odd) positive.le
    push_cast
    linarith

end

/-! ## Runs -/

variable {σ ν : Type} [Machine σ] [View ν σ]

theorem Standing.tick {b : Bench Rat σ ν} {times : List Rat} {frames : Nat} {origin latest now : Rat}
    (standing : Standing b.scheduler.pacer.interval origin times latest b.scheduler.cycles frames)
    (grid : OnGrid times b.scheduler frames) (positive : 0 < b.scheduler.pacer.interval)
    (first : times.head? = some origin) (last : times.getLast? = some latest)
    (reached : origin + frames * b.scheduler.pacer.interval ≤ latest)
    (onward : latest ≤ now) (often : now - latest ≤ b.scheduler.pacer.interval)
    (running : b.scheduler.running = true) :
    ∃ frames', OnGrid (times ++ [now]) (b.tick now).1.scheduler frames' ∧
      origin + frames' * b.scheduler.pacer.interval ≤ now ∧
      Standing b.scheduler.pacer.interval origin (times ++ [now]) now
        (b.tick now).1.scheduler.cycles frames' := by
  have reference := grid.reference_of_first first
  have lag := grid.lag_le latest last _ reference
  have ticked := grid.tick positive now
  rw [reference, Option.getD_some] at ticked
  rcases ticked with ⟨-, early, cycles, after⟩ | ⟨-, due, k, atLeastOne, whole, short, cycles, after⟩
  · refine ⟨frames, after, by linarith, ?_⟩
    rw [cycles]
    exact standing.wait positive last reached onward early
  · refine ⟨frames + k, after, by push_cast; linarith, ?_⟩
    rw [cycles, running, if_pos rfl]
    exact standing.execute positive last lag onward often atLeastOne due whole short

/-- The first tick only sets the reference. -/
theorem Standing.firstTick {b : Bench Rat σ ν} {frames : Nat}
    (grid : OnGrid [] b.scheduler frames) (positive : 0 < b.scheduler.pacer.interval) (now : Rat) :
    OnGrid [now] (b.tick now).1.scheduler 0 ∧
      Standing b.scheduler.pacer.interval now [now] now (b.tick now).1.scheduler.cycles 0 := by
  have none : frames = 0 := grid.unstarted (Nat.zero_le 1)
  subst none
  have noCycles : b.scheduler.cycles = 0 := Nat.le_zero.mp grid.cycles_le
  have noReference : b.scheduler.pacer.reference = none := grid.reference
  rcases grid.tick positive now with ⟨-, -, cycles, after⟩ | ⟨-, due, -⟩
  · refine ⟨after, ?_⟩
    rw [cycles, noCycles]
    exact .first _ _
  · rw [noReference, Option.getD_none] at due
    linarith

/-- Where a steady host gets to with a scheduler that keeps running. -/
theorem standing_run {rate : Rat} (positive : 0 < rate) (rig : Rig σ) (view : ν)
    {orders : List (Order Rat)} {origin latest : Rat}
    (first : (Order.times orders).head? = some origin)
    (last : (Order.times orders).getLast? = some latest)
    (steady : Steady (1000 / rate) (Order.times orders))
    (running : (Bench.ofRate rate rig view).RunsThroughout orders) :
    let s := ((Bench.ofRate rate rig view).run orders).scheduler
    ∃ frames, OnGrid (Order.times orders) s frames ∧ origin + frames * (1000 / rate) ≤ latest ∧
      Standing (1000 / rate) origin (Order.times orders) latest s.cycles frames := by
  induction orders using List.reverseRecOn generalizing latest with
  | nil => cases last
  | append_singleton orders order ih =>
    have interval : ((Bench.ofRate rate rig view).run orders).scheduler.pacer.interval = 1000 / rate :=
      Bench.interval_run _ _
    have spaced : 0 < 1000 / rate := div_pos (by norm_num) positive
    cases timed : order.time? with
    | none =>
      obtain ⟨pacer, cycles⟩ := ((Bench.ofRate rate rig view).run orders).obey_of_no_tick timed
      simp only [Order.times_concat, timed, Option.toList_none, List.append_nil] at first last steady ⊢
      obtain ⟨frames, grid, reached, standing⟩ := ih first last steady running.init
      simp only [Bench.run_concat, cycles]
      exact ⟨frames, grid.congr pacer cycles, reached, standing⟩
    | some now =>
      obtain rfl := Order.eq_tick_of_time? timed
      simp only [Order.times_concat, timed, Option.toList_some] at first last steady ⊢
      obtain rfl : now = latest := by simpa using last
      simp only [Bench.run_concat]
      cases earlier : (Order.times orders).getLast? with
      | none =>
        rw [List.getLast?_eq_none_iff] at earlier
        obtain ⟨frames, grid⟩ := OnGrid.run positive rig view orders
        rw [earlier] at grid first ⊢
        obtain rfl : now = origin := by simpa using first
        obtain ⟨after, standing⟩ := Standing.firstTick grid (by rwa [interval]) now
        rw [interval] at standing
        exact ⟨0, after, by simp, standing⟩
      | some before =>
        have nonempty : Order.times orders ≠ [] := by
          rintro empty
          rw [empty] at earlier
          cases earlier
        rw [List.head?_append_of_ne_nil _ nonempty] at first
        obtain ⟨steadyBefore, -, gap⟩ := List.isChain_append.mp steady
        obtain ⟨onward, often⟩ := gap before earlier now rfl
        obtain ⟨frames, grid, reached, standing⟩ := ih first earlier steadyBefore running.init
        rw [← interval] at reached standing often
        have ticked := standing.tick grid (by rwa [interval]) first earlier reached onward often
          running.last
        rwa [interval] at ticked

/-- With a steady host the count of cycles is within one of the intervals on the clock exactly until
time goes on after a slip. -/
theorem cycles_track_clock_iff {rate : Rat} (positive : 0 < rate) (rig : Rig σ) (view : ν)
    {orders : List (Order Rat)} {origin latest : Rat}
    (first : (Order.times orders).head? = some origin)
    (last : (Order.times orders).getLast? = some latest)
    (steady : Steady (1000 / rate) (Order.times orders))
    (running : (Bench.ofRate rate rig view).RunsThroughout orders) :
    |(((Bench.ofRate rate rig view).run orders).scheduler.cycles : Rat) -
        (latest - origin) / (1000 / rate)| ≤ 1 ↔
      ∀ before after, Slip (1000 / rate) origin (Order.times orders) before after →
        after = latest := by
  obtain ⟨frames, grid, reached, standing⟩ := standing_run positive rig view first last steady running
  have spacing : ((Bench.ofRate rate rig view).run orders).scheduler.pacer.interval = 1000 / rate :=
    Bench.interval_run _ _
  have lag := grid.lag_le latest last _ (grid.reference_of_first first)
  rw [spacing] at lag
  generalize ((Bench.ofRate rate rig view).run orders).scheduler.cycles = cycles at standing ⊢
  have wide : 0 < 1000 / rate := div_pos (by norm_num) positive
  have low : (frames : Rat) ≤ (latest - origin) / (1000 / rate) :=
    (le_div_iff₀ wide).mpr (by linarith)
  have high : (latest - origin) / (1000 / rate) ≤ frames + 1 :=
    (div_le_iff₀ wide).mpr (by linarith)
  cases standing with
  | level even none _ =>
    subst even
    refine iff_of_true (abs_le.mpr ⟨by linarith, by linarith⟩) ?_
    exact fun before after slip => absurd slip (none before after)
  | slipped odd same _ only =>
    have exactly : (latest - origin) / (1000 / rate) = cycles + 1 := by
      rw [← same, ← odd]
      field_simp
      push_cast
      ring
    refine iff_of_true ?_ only
    rw [exactly, abs_le]
    constructor <;> linarith
  | behind odd late slip =>
    obtain ⟨before, after, slip, earlier⟩ := slip
    refine iff_of_false ?_ fun only => earlier.ne (only before after slip)
    have more : (cycles : Rat) + 1 < (latest - origin) / (1000 / rate) := (lt_div_iff₀ wide).mpr late
    rw [abs_le, not_and_or]
    left
    linarith

/-- Ticks at times 0, 1 and 2, one interval apart, are a slip, but time does not go on after it. -/
theorem cycles_track_clock_after_slip :
    let orders : List (Order Rat) := [.start, .tick 0, .tick 1, .tick 2]
    let b := (Bench.ofRate (1000 : Rat) { machine := ({} : Puppet) } ({} : RefreshCount)).run orders
    (0 : Rat) < 1000 ∧ (Order.times orders).head? = some 0 ∧
      (Order.times orders).getLast? = some 2 ∧ Steady (1000 / 1000) (Order.times orders) ∧
      (|(b.scheduler.cycles : Rat) - (2 - 0) / (1000 / 1000)| ≤ 1 ↔
        ∀ before after, Slip (1000 / 1000) 0 (Order.times orders) before after → after = 2) := by
  intro orders
  have first : (Order.times orders).head? = some 0 := rfl
  have last : (Order.times orders).getLast? = some 2 := rfl
  have steady : Steady (1000 / 1000) (Order.times orders) := by
    simp only [orders, Steady, Order.times, Order.time?, List.filterMap_cons, List.filterMap_nil]
    norm_num
  have running : (Bench.ofRate (1000 : Rat) { machine := ({} : Puppet) }
      ({} : RefreshCount)).RunsThroughout orders := Bench.runsThroughout_start _ (by decide)
  exact ⟨by norm_num, first, last, steady, cycles_track_clock_iff (by norm_num : (0 : Rat) < 1000)
    { machine := ({} : Puppet) } ({} : RefreshCount) first last steady running⟩

/-- A host at exactly the rate of frames: after three intervals there has been one cycle. -/
theorem cycles_behind_at_exact_rate :
    let orders : List (Order Rat) := [.start, .tick 0, .tick 1, .tick 2, .tick 3]
    let start := Bench.ofRate (1000 : Rat) { machine := ({} : Puppet) } ({} : RefreshCount)
    Steady (1000 / 1000) (Order.times orders) ∧ start.RunsThroughout orders ∧
      (start.run orders).scheduler.cycles = 1 ∧
      ¬ |((start.run orders).scheduler.cycles : Rat) - (3 - 0) / (1000 / 1000)| ≤ 1 := by
  intro orders start
  have cycles : (start.run orders).scheduler.cycles = 1 := by decide +kernel
  refine ⟨?_, start.runsThroughout_start (by decide), cycles, ?_⟩
  · simp only [orders, Steady, Order.times, Order.time?, List.filterMap_cons, List.filterMap_nil]
    norm_num
  · rw [cycles]
    norm_num [abs_le]

end Chip8Console
