import Chip8Console.Proofs.Scheduling.Grid

/-! # No bunching

The ticks that execute a cycle lie in different intervals of the grid, later ones in later intervals (`InCells`).  So two
of them may come right after one another, at the end of one interval and at the beginning of the next, but any further
one takes an interval more, whatever was ordered in between and however long the clock or the scheduler stood still
(`never_bunched`).
-/

namespace Chip8Console

/-! ## Executed ticks -/

namespace Bench

section

variable {τ σ ν : Type} [Clock τ] [Machine σ] [View ν σ]

/-- The time of an order to tick that executes a cycle. -/
def executes? (b : Bench τ σ ν) : Order τ → Option τ
  | .tick now => if (b.tick now).2 = .executed then some now else none
  | _ => none

/-- The times of the ticks of a run that execute a cycle, in their order. -/
def executed (b : Bench τ σ ν) : List (Order τ) → List τ
  | [] => []
  | order :: orders => (b.executes? order).toList ++ (b.obey order).executed orders

@[simp] theorem executed_concat (b : Bench τ σ ν) (orders : List (Order τ)) (order : Order τ) :
    b.executed (orders ++ [order]) = b.executed orders ++ ((b.run orders).executes? order).toList := by
  induction orders generalizing b with
  | nil => simp [executed]
  | cons first orders ih => simp [executed, ih, run]

theorem executes?_of_no_tick {b : Bench τ σ ν} {order : Order τ} (noTick : order.time? = none) :
    b.executes? order = none := by
  cases order with
  | start | stop | step => rfl
  | tick now => cases noTick

theorem cycles_obey (b : Bench τ σ ν) (order : Order τ) :
    (b.obey order).scheduler.cycles = b.scheduler.cycles + (b.executes? order).toList.length := by
  cases order with
  | start | stop | step => rfl
  | tick now =>
    change (b.tick now).1.scheduler.cycles = _
    rcases b.scheduler_tick now with ⟨-, outcome, ticked⟩ | ⟨-, -, outcome, ticked⟩ | ⟨-, -, outcome, ticked⟩
    all_goals simp [executes?, outcome, ticked]

theorem cycles_run (b : Bench τ σ ν) (orders : List (Order τ)) :
    (b.run orders).scheduler.cycles = b.scheduler.cycles + (b.executed orders).length := by
  induction orders using List.reverseRecOn with
  | nil => rfl
  | append_singleton orders order ih =>
    rw [run_concat, cycles_obey, ih, executed_concat, List.length_append, Nat.add_assoc]

end

end Bench

/-! ## Cells of the grid -/

/-- The number of the interval of the grid in which a time lies. -/
def cell (interval origin time : Rat) : Int :=
  ((time - origin) / interval).floor

/-- Executed ticks lie in different cells, later ones in later cells, and none beyond the cell that begins with the
reference. -/
structure InCells (interval origin : Rat) (executed : List Rat) (frames : Nat) : Prop where
  ascending : executed.Pairwise fun earlier later => cell interval origin earlier < cell interval origin later
  reached : ∀ time ∈ executed, cell interval origin time ≤ frames

namespace InCells

variable {interval origin : Rat} {executed : List Rat} {frames more : Nat}

theorem mono (cells : InCells interval origin executed frames) (le : frames ≤ more) :
    InCells interval origin executed more where
  ascending := cells.ascending
  reached time among := (cells.reached time among).trans (by exact_mod_cast le)

theorem concat (cells : InCells interval origin executed frames) (later : frames < more) {now : Rat}
    (new : cell interval origin now = more) : InCells interval origin (executed ++ [now]) more where
  ascending := by
    refine List.pairwise_append.mpr ⟨cells.ascending, List.pairwise_singleton _ _, ?_⟩
    intro earlier among time isNow
    obtain rfl := List.mem_singleton.mp isNow
    have := cells.reached earlier among
    omega
  reached time among := by
    rcases List.mem_append.mp among with before | isNow
    · exact (cells.mono later.le).reached time before
    · obtain rfl := List.mem_singleton.mp isNow
      exact new.le

end InCells

section

variable {interval origin first last : Rat}

/-- From the first of some ascending cells to the last there are as many steps as there are cells in between, and one
more. -/
theorem cell_add_length_lt {middle : List Rat}
    (ascending : (first :: (middle ++ [last])).Pairwise fun earlier later =>
      cell interval origin earlier < cell interval origin later) :
    cell interval origin first + middle.length < cell interval origin last := by
  induction middle generalizing first with
  | nil => simpa using ascending
  | cons next middle ih =>
    obtain ⟨before, rest⟩ := List.pairwise_cons.mp ascending
    have step := before next List.mem_cons_self
    have more := ih rest
    rw [List.length_cons]
    omega

/-- Times that many cells apart are more than all but one of them apart. -/
theorem lt_sub_of_cell (positive : 0 < interval) {n : Nat}
    (apart : cell interval origin first + n < cell interval origin last) : n * interval < last - first := by
  have low : (cell interval origin last : Rat) ≤ (last - origin) / interval := Rat.floor_le _
  have high : (first - origin) / interval < cell interval origin first + 1 := by
    exact_mod_cast Rat.lt_floor_add_one ((first - origin) / interval)
  have whole : (cell interval origin first : Rat) + n + 1 ≤ cell interval origin last := by exact_mod_cast apart
  have far : (n : Rat) < (last - origin) / interval - (first - origin) / interval := by linarith
  have scaled := mul_lt_mul_of_pos_right far positive
  rw [sub_mul, div_mul_cancel₀ _ positive.ne', div_mul_cancel₀ _ positive.ne'] at scaled
  linarith

end

/-- Of ticks in ascending cells, fewer than two more than there are intervals lie in a window. -/
theorem length_lt_of_ascending {interval origin opens closes : Rat} (positive : 0 < interval) (le : opens ≤ closes)
    {times : List Rat} (within : ∀ time ∈ times, opens ≤ time ∧ time ≤ closes)
    (ascending : times.Pairwise fun earlier later => cell interval origin earlier < cell interval origin later) :
    (times.length : Rat) < (closes - opens) / interval + 2 := by
  have wide : 0 ≤ (closes - opens) / interval := div_nonneg (by linarith) positive.le
  cases times with
  | nil => simpa using by linarith
  | cons first rest =>
    cases rest using List.reverseRecOn with
    | nil => simpa using by linarith
    | append_singleton middle last =>
      have apart := lt_sub_of_cell positive (cell_add_length_lt ascending)
      have opened := (within first (by simp)).1
      have closed := (within last (by simp)).2
      have few : (middle.length : Rat) < (closes - opens) / interval := (lt_div_iff₀ positive).mpr (by linarith)
      simp only [List.length_cons, List.length_append, List.length_nil]
      push_cast
      linarith

/-! ## Runs -/

variable {σ ν : Type} [Machine σ] [View ν σ]

/-- A tick executes in the cell that begins with the new reference. -/
theorem InCells.tick {b : Bench Rat σ ν} {times executed : List Rat} {frames : Nat} {origin : Rat}
    (grid : OnGrid times b.scheduler frames) (positive : 0 < b.scheduler.pacer.interval)
    (cells : InCells b.scheduler.pacer.interval origin executed frames) (now : Rat)
    (first : ∀ time ∈ (times ++ [now]).head?, time = origin) :
    ∃ frames', OnGrid (times ++ [now]) (b.tick now).1.scheduler frames' ∧
      InCells b.scheduler.pacer.interval origin (executed ++ (b.executes? (.tick now)).toList) frames' := by
  rcases grid.tick positive now with ⟨outcome, -, -, after⟩ | ⟨-, due, k, atLeastOne, reached, short, -, after⟩
  · refine ⟨frames, after, ?_⟩
    simpa [Bench.executes?, outcome] using cells
  · refine ⟨frames + k, after, ?_⟩
    by_cases executes : (b.tick now).2 = .executed
    · have begun : times.head? = some origin := by
        cases times with
        | nil =>
          -- Before the first tick there is no reference, and so none is due.
          simp only [grid.reference, List.head?_nil, Option.map_none, Option.getD_none] at due
          linarith
        | cons time times => rw [List.head?_cons, first time rfl]
      rw [grid.reference_of_first begun, Option.getD_some] at reached short
      -- The new reference is the last point of the grid that is not after the tick.
      have new : cell b.scheduler.pacer.interval origin now = (frames + k : Nat) := by
        apply Pacer.floor_elapsed positive
        · push_cast
          linarith
        · push_cast
          linarith
      simpa [Bench.executes?, executes] using cells.concat (by omega) new
    · simpa [Bench.executes?, executes] using cells.mono (Nat.le_add_right frames k)

theorem InCells.run {rate : Rat} (positive : 0 < rate) (rig : Rig σ) (view : ν) (orders : List (Order Rat))
    {origin : Rat} (first : ∀ time ∈ (Order.times orders).head?, time = origin) :
    let b := Bench.ofRate rate rig view
    ∃ frames, OnGrid (Order.times orders) (b.run orders).scheduler frames ∧
      InCells (1000 / rate) origin (b.executed orders) frames := by
  intro b
  induction orders using List.reverseRecOn with
  | nil => exact ⟨0, .ofRate rate rig view, .nil, nofun⟩
  | append_singleton orders order ih =>
    have interval : (b.run orders).scheduler.pacer.interval = 1000 / rate := Bench.interval_run _ _
    rw [Order.times_concat] at first
    have before : ∀ time ∈ (Order.times orders).head?, time = origin := by
      intro time isFirst
      apply first
      rw [List.head?_append, Option.mem_def.mp isFirst]
      rfl
    obtain ⟨frames, grid, cells⟩ := ih before
    rw [Bench.run_concat, Bench.executed_concat, Order.times_concat]
    cases timed : order.time? with
    | none =>
      obtain ⟨pacer, cycles⟩ := (b.run orders).obey_of_no_tick timed
      have silent : (b.run orders).executes? order = none := Bench.executes?_of_no_tick timed
      exact ⟨frames, by simpa using grid.congr pacer cycles, by simpa [silent] using cells⟩
    | some now =>
      obtain rfl := Order.eq_tick_of_time? timed
      rw [← interval] at cells ⊢
      exact InCells.tick grid (by rw [interval]; exact div_pos (by norm_num) positive) cells now first

/-- Executed ticks never bunch up: from the first of them to the last there pass more intervals than there are others in
between, so that a window holds fewer than two more of them than it has intervals. -/
theorem never_bunched {rate : Rat} (positive : 0 < rate) (rig : Rig σ) (view : ν) (orders : List (Order Rat)) :
    let interval := 1000 / rate
    let b := Bench.ofRate rate rig view
    (b.run orders).scheduler.cycles = (b.executed orders).length ∧
    (∀ first middle last, first :: (middle ++ [last]) <:+: b.executed orders →
      middle.length * interval < last - first) ∧
    ∀ opens closes, opens ≤ closes →
      (((b.executed orders).filter fun time => opens ≤ time ∧ time ≤ closes).length : Rat) <
        (closes - opens) / interval + 2 := by
  intro interval b
  have wide : 0 < interval := div_pos (by norm_num) positive
  have first : ∀ time ∈ (Order.times orders).head?, time = (Order.times orders).head?.getD 0 := by
    intro time isFirst
    rw [Option.mem_def.mp isFirst]
    rfl
  obtain ⟨_, -, cells⟩ := InCells.run positive rig view orders first
  refine ⟨?_, fun first middle last consecutive => ?_, fun opens closes le => ?_⟩
  · rw [Bench.cycles_run]
    exact Nat.zero_add _
  · exact lt_sub_of_cell wide (cell_add_length_lt (cells.ascending.sublist consecutive.sublist))
  · exact length_lt_of_ascending wide le (fun time among => by simpa using List.of_mem_filter among)
      (cells.ascending.sublist List.filter_sublist)

/-- After a long stop two cycles come a fifth of an interval apart, and the third one more than an interval after the
first. -/
theorem not_bunched_after_long_stop :
    let orders : List (Order Rat) := [.start, .tick 0, .tick (19 / 10), .stop, .tick 1000, .start,
      .tick (10019 / 10), .tick (10021 / 10), .step, .tick (20061 / 20)]
    let b := Bench.ofRate (1000 : Rat) { machine := ({} : Puppet) } ({} : RefreshCount)
    (0 : Rat) < 1000 ∧ b.executed orders = [19 / 10, 10019 / 10, 10021 / 10, 20061 / 20] ∧
      (b.run orders).scheduler.cycles = 4 ∧
      (([10021 / 10] : List Rat).length : Rat) * (1000 / 1000) < 20061 / 20 - 10019 / 10 ∧
      (((b.executed orders).filter fun time => 1000 ≤ time ∧ time ≤ 1003).length : Rat) <
        (1003 - 1000) / (1000 / 1000) + 2 := by
  intro orders b
  have executed : b.executed orders = [19 / 10, 10019 / 10, 10021 / 10, 20061 / 20] := by decide +kernel
  obtain ⟨cycles, apart, window⟩ :=
    never_bunched (by norm_num : (0 : Rat) < 1000) { machine := ({} : Puppet) } ({} : RefreshCount) orders
  refine ⟨by norm_num, executed, by rw [cycles, executed]; rfl, apart _ [10021 / 10] _ ?_, window 1000 1003 (by norm_num)⟩
  rw [executed]
  exact ⟨[19 / 10], [], rfl⟩

end Chip8Console
