import Chip8Console.Machine.Puppet
import Chip8Console.Scheduler
import Mathlib.Data.List.Induction

/-! # Runs of a scheduler

A `Bench` is a scheduler with the machine and the view that it is lent, and an `Order` is anything
that it can be told.  A run obeys any orders one after the other.

* `Scheduler.tick_cases`: the three things that a tick can come to, and all that each of them does.
* `Bench.run_concat`: the last order of a run acts on what the run before it has left.
* `Order.times`: when the ticks of a run come.
-/

namespace Chip8Console

/-! ## One tick -/

namespace Scheduler

variable {τ σ ν : Type} [Clock τ] [Machine σ] [View ν σ]

/-- The part of a tick that reaches the machine: one cycle, and then a refresh. -/
def frame (s : Scheduler τ) (rig : Rig σ) (view : ν) : Rig σ × ν :=
  let (rig, fault) := rig.runCycle
  (rig.noteAll (fault.toList.map (.cycleFailed s.cycles))).show view

/-- A tick waits, skips a frame or executes one; the pacer is asked in each case, and nothing but
an executed frame reaches the machine and the view. -/
theorem tick_cases (s : Scheduler τ) (now : τ) (rig : Rig σ) (view : ν) :
    let (pacer, due) := s.pacer.advance now
    (due = false ∧ s.tick now rig view = ({ s with pacer }, rig, view, .waiting)) ∨
    (due = true ∧ s.running = false ∧
      s.tick now rig view = ({ s with pacer }, rig, view, .skipped)) ∨
    (due = true ∧ s.running = true ∧
      s.tick now rig view = ({ s with pacer, cycles := s.cycles + 1 }, (s.frame rig view).1,
        (s.frame rig view).2, .executed)) := by
  unfold tick frame
  generalize s.pacer.advance now = asked
  obtain ⟨pacer, due⟩ := asked
  cases due with
  | false => exact .inl ⟨rfl, rfl⟩
  | true =>
    cases running : s.running with
    | false => exact .inr (.inl ⟨rfl, rfl, by simp⟩)
    | true => exact .inr (.inr ⟨rfl, rfl, by simp⟩)

end Scheduler

/-! ## Runs -/

inductive Order (τ : Type) where
  | start
  | stop
  | step
  | tick (now : τ)
deriving DecidableEq

namespace Order

variable {τ : Type}

def time? : Order τ → Option τ
  | .tick now => some now
  | _ => none

/-- The times of the ticks, in the order in which they come. -/
def times (orders : List (Order τ)) : List τ :=
  orders.filterMap time?

@[simp] theorem times_concat (orders : List (Order τ)) (order : Order τ) :
    times (orders ++ [order]) = times orders ++ order.time?.toList := by
  cases order <;> simp [times, time?]

theorem eq_tick_of_time? {order : Order τ} {now : τ} (timed : order.time? = some now) :
    order = .tick now := by
  cases order with
  | tick => simpa [time?] using timed
  | start | stop | step => cases timed

end Order

/-- A scheduler with the machine and the view that it is lent. -/
structure Bench (τ σ ν : Type) where
  scheduler : Scheduler τ
  rig : Rig σ
  view : ν

namespace Bench

variable {τ σ ν : Type} [Clock τ] [Machine σ] [View ν σ]

def ofRate (rate : τ) (rig : Rig σ) (view : ν) : Bench τ σ ν where
  scheduler := .ofRate rate
  rig
  view

def tick (b : Bench τ σ ν) (now : τ) : Bench τ σ ν × Tick :=
  let (scheduler, rig, view, tick) := b.scheduler.tick now b.rig b.view
  (⟨scheduler, rig, view⟩, tick)

def obey (b : Bench τ σ ν) : Order τ → Bench τ σ ν
  | .start =>
    let (scheduler, notices) := b.scheduler.start
    { b with scheduler, rig := b.rig.noteAll notices }
  | .stop =>
    let (scheduler, notices) := b.scheduler.stop
    { b with scheduler, rig := b.rig.noteAll notices }
  | .step =>
    let (scheduler, rig, view) := b.scheduler.step b.rig b.view
    ⟨scheduler, rig, view⟩
  | .tick now => (b.tick now).1

def run (b : Bench τ σ ν) (orders : List (Order τ)) : Bench τ σ ν :=
  orders.foldl obey b

@[simp] theorem run_nil (b : Bench τ σ ν) : b.run [] = b := rfl

@[simp] theorem run_concat (b : Bench τ σ ν) (orders : List (Order τ)) (order : Order τ) :
    b.run (orders ++ [order]) = (b.run orders).obey order := by
  simp [run]

theorem scheduler_tick (b : Bench τ σ ν) (now : τ) :
    let (pacer, due) := b.scheduler.pacer.advance now
    (due = false ∧ (b.tick now).2 = .waiting ∧ (b.tick now).1.scheduler = { b.scheduler with pacer }) ∨
    (due = true ∧ b.scheduler.running = false ∧ (b.tick now).2 = .skipped ∧
      (b.tick now).1.scheduler = { b.scheduler with pacer }) ∨
    (due = true ∧ b.scheduler.running = true ∧ (b.tick now).2 = .executed ∧
      (b.tick now).1.scheduler = { b.scheduler with pacer, cycles := b.scheduler.cycles + 1 }) := by
  rcases b.scheduler.tick_cases now b.rig b.view with ⟨due, ticked⟩ | ⟨due, stopped, ticked⟩ |
    ⟨due, running, ticked⟩
  · exact .inl ⟨due, by simp [tick, ticked]⟩
  · exact .inr (.inl ⟨due, stopped, by simp [tick, ticked]⟩)
  · exact .inr (.inr ⟨due, running, by simp [tick, ticked]⟩)

theorem obey_of_no_tick (b : Bench τ σ ν) {order : Order τ} (noTick : order.time? = none) :
    (b.obey order).scheduler.pacer = b.scheduler.pacer ∧
      (b.obey order).scheduler.cycles = b.scheduler.cycles := by
  cases order with
  | start | stop | step => exact ⟨rfl, rfl⟩
  | tick now => cases noTick

@[simp] theorem interval_obey (b : Bench τ σ ν) (order : Order τ) :
    (b.obey order).scheduler.pacer.interval = b.scheduler.pacer.interval := by
  cases order with
  | start | stop | step => rfl
  | tick now =>
    rcases b.scheduler_tick now with ⟨-, -, ticked⟩ | ⟨-, -, -, ticked⟩ | ⟨-, -, -, ticked⟩
    all_goals
      change (b.tick now).1.scheduler.pacer.interval = _
      rw [ticked]
      exact Pacer.interval_advance _ _

@[simp] theorem interval_run (b : Bench τ σ ν) (orders : List (Order τ)) :
    (b.run orders).scheduler.pacer.interval = b.scheduler.pacer.interval := by
  induction orders using List.reverseRecOn with
  | nil => rfl
  | append_singleton orders order ih => rw [run_concat, interval_obey, ih]

/-- Every tick of a run finds the scheduler running. -/
def RunsThroughout (b : Bench τ σ ν) (orders : List (Order τ)) : Prop :=
  ∀ earlier now later, orders = earlier ++ .tick now :: later →
    (b.run earlier).scheduler.running = true

theorem RunsThroughout.init {b : Bench τ σ ν} {orders : List (Order τ)} {order : Order τ}
    (running : b.RunsThroughout (orders ++ [order])) : b.RunsThroughout orders := by
  intro earlier now later split
  exact running earlier now (later ++ [order]) (by simp [split])

theorem RunsThroughout.last {b : Bench τ σ ν} {orders : List (Order τ)} {now : τ}
    (running : b.RunsThroughout (orders ++ [.tick now])) :
    (b.run orders).scheduler.running = true :=
  running orders now [] rfl

/-- Only a request to stop stops the scheduler. -/
theorem running_run {b : Bench τ σ ν} (running : b.scheduler.running = true)
    {orders : List (Order τ)} (noStop : .stop ∉ orders) :
    (b.run orders).scheduler.running = true := by
  induction orders using List.reverseRecOn with
  | nil => exact running
  | append_singleton orders order ih =>
    simp only [List.mem_append, List.mem_singleton, not_or] at noStop
    have before := ih noStop.1
    rw [run_concat]
    cases order with
    | start => rfl
    | stop => exact absurd rfl noStop.2
    | step => exact before
    | tick now =>
      change ((b.run orders).tick now).1.scheduler.running = true
      rcases (b.run orders).scheduler_tick now with ⟨-, -, same⟩ | ⟨-, -, -, same⟩ | ⟨-, -, -, same⟩
      all_goals
        rw [same]
        exact before

theorem runsThroughout_start (b : Bench τ σ ν) {orders : List (Order τ)} (noStop : .stop ∉ orders) :
    b.RunsThroughout (.start :: orders) := by
  intro earlier now later split
  cases earlier with
  | nil => cases split
  | cons order earlier =>
    obtain ⟨rfl, rest⟩ := List.cons.inj split
    apply running_run (b := b.obey .start) rfl
    intro stops
    apply noStop
    rw [rest]
    exact List.mem_append_left _ stops

end Bench

/-! ## A view that counts -/

structure RefreshCount where
  count : Nat := 0
deriving DecidableEq

instance {σ : Type} : View RefreshCount σ where
  refresh view _ := ({ count := view.count + 1 }, [])

end Chip8Console
