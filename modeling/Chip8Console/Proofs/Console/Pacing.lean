import Chip8Console.Machine.Puppet
import Chip8Console.Proofs.Console.Run
import Mathlib.Data.List.Forall2

/-! # Pacing

Whether a frame is due depends on the clock alone.  A tick asks the pacer once, and nothing else reaches it
(`pacer_act`, `tick_paced`), so the ticks of a run are those of a pacer that is asked at the same times
(`ticks_paced`).  Two runs with the same clock are therefore paced alike, whatever else is done in
them (`paced_by_clock_alone`).
-/

namespace Chip8Console

namespace Action

def time? : Action → Option Float
  | .tick now => some now
  | _ => none

/-- The times of the ticks, in the order in which they come. -/
def times (actions : List Action) : List Float :=
  actions.filterMap time?

theorem eq_tick_of_time? {action : Action} {now : Float} (timed : action.time? = some now) :
    action = .tick now := by
  cases action with
  | tick => simpa [time?] using timed
  | boot | event | deliver | abandon => cases timed

end Action

/-- What a pacer says when it is asked at one time after the other, and its reference each time. -/
def Pacer.answers {τ : Type} [Clock τ] (p : Pacer τ) : List τ → List (Bool × Option τ)
  | [] => []
  | now :: times => ((p.advance now).2, (p.advance now).1.reference) :: (p.advance now).1.answers times

/-- What a tick has answered, and the reference time that it has left. -/
structure Ticked where
  answer : Tick
  reference : Option Float

/-- What the pacer has had to do with a tick. -/
def Ticked.pacing (t : Ticked) : Bool × Option Float :=
  (t.answer != .waiting, t.reference)

namespace Session

variable {σ : Type} [Machine σ]

theorem scheduler_select (s : Session σ) (index : Nat) : (s.select index).1.scheduler = s.scheduler := by
  unfold select
  split
  · rfl
  · cases s.loader.catalog.get? index <;> rfl

/-- A load may start the scheduler, but leaves the pacer alone. -/
theorem pacer_poll (s : Session σ) : s.poll.1.scheduler.pacer = s.scheduler.pacer := by
  unfold poll
  cases s.loader.pending with
  | none => rfl
  | some ticket =>
    cases outcome : s.rig.outcome? ticket with
    | none => simp [outcome]
    | some answer => cases answer <;> simp only [outcome] <;> rfl

end Session

namespace Console

variable {σ δ : Type} [Machine σ] [Beeper δ]

theorem pacer_handle (c : Console σ δ) (event : HostEvent) :
    (c.handle event).1.session.scheduler.pacer = c.session.scheduler.pacer := by
  cases event with
  | key edge => rfl
  | halt => rw [show (c.handle .halt).1.session.scheduler = _ from (halt_alike c).scheduler]
  | resume => rfl
  | step => rw [show (c.handle .step).1.session.scheduler = _ from (step_alike c).scheduler]
  | nextProgram =>
    have changed := (change_alike c Session.selectNext).scheduler
    rw [Session.selectNext, Session.scheduler_select] at changed
    exact congrArg Scheduler.pacer changed
  | prevProgram =>
    have changed := (change_alike c Session.selectPrev).scheduler
    rw [Session.selectPrev, Session.scheduler_select] at changed
    exact congrArg Scheduler.pacer changed
  | toggleDebug => rfl
  | quit => rfl

/-- Only ticks reach the pacer. -/
theorem pacer_act (c : Console σ δ) {action : Action} (noTick : action.time? = none) :
    (c.act action).session.scheduler.pacer = c.session.scheduler.pacer := by
  cases action with
  | boot =>
    have chosen := (choose_alike c (·.select 0)).scheduler
    rw [Session.scheduler_select] at chosen
    exact congrArg Scheduler.pacer chosen
  | tick now => cases noTick
  | event event => exact pacer_handle c event
  | deliver ticket answer => rfl
  | abandon ticket => rfl

/-- A tick asks the pacer once. -/
theorem tick_paced (c : Console σ δ) (now : Float) :
    let asked := c.session.scheduler.pacer.advance now
    ((c.tick now).2 != .waiting) = asked.2 ∧ (c.tick now).1.session.scheduler.pacer = asked.1 := by
  have polled : c.pollLoad.session.scheduler.pacer = c.session.scheduler.pacer := by
    rw [(pollLoad_alike c).scheduler, Session.pacer_poll]
  rw [← polled]
  rcases c.tick_cases now with ⟨-, outcome, left⟩ | ⟨ran, outcome, left⟩
  · refine ⟨?_, by rw [left.scheduler]⟩
    rw [outcome]
    cases (c.pollLoad.session.scheduler.pacer.advance now).2 <;> rfl
  · refine ⟨?_, by rw [left.scheduler]⟩
    rw [outcome, (Bool.and_eq_true_iff.mp ran).1]
    rfl

def ticked? (c : Console σ δ) : Action → Option Ticked
  | .tick now => some ⟨(c.tick now).2, (c.tick now).1.session.scheduler.pacer.reference⟩
  | _ => none

def ticks (c : Console σ δ) : List Action → List Ticked
  | [] => []
  | action :: actions => (c.ticked? action).toList ++ (c.act action).ticks actions

theorem ticks_paced (c : Console σ δ) (actions : List Action) :
    (c.ticks actions).map Ticked.pacing = c.session.scheduler.pacer.answers (Action.times actions) := by
  induction actions generalizing c with
  | nil => rfl
  | cons action actions ih =>
    cases timed : action.time? with
    | none =>
      -- What is no tick adds nothing on either side.
      have untimed : c.ticked? action = none := by
        cases action <;> first | rfl | cases timed
      rw [ticks, untimed, Action.times, List.filterMap_cons_none timed]
      exact (ih _).trans (by rw [pacer_act c timed]; rfl)
    | some now =>
      obtain rfl := Action.eq_tick_of_time? timed
      obtain ⟨outcome, pacer⟩ := c.tick_paced now
      rw [Action.times, List.filterMap_cons_some timed, Pacer.answers, ← outcome, ← pacer]
      exact congrArg _ (ih _)

end Console

/-- Two runs with the same clock are paced alike, whatever else is done in them and whatever fails. -/
theorem paced_by_clock_alone {σ σ' δ δ' : Type} [Machine σ] [Machine σ'] [Beeper δ] [Beeper δ']
    (frameRate : Float) (machine : σ) (machine' : σ') (fetcher fetcher' : Fetcher)
    (catalog catalog' : Catalog) (screen screen' : Screen) (tone : ToneGate δ) (tone' : ToneGate δ')
    {actions actions' : List Action} (sameClock : Action.times actions = Action.times actions') :
    let c : Console σ δ := { session := .new machine frameRate fetcher catalog, screen, tone }
    let c' : Console σ' δ' :=
      { session := .new machine' frameRate fetcher' catalog', screen := screen', tone := tone' }
    List.Forall₂ (fun t t' => (t.answer = .waiting ↔ t'.answer = .waiting) ∧ t.reference = t'.reference)
      (c.ticks actions) (c'.ticks actions') := by
  intro c c'
  -- Both runs ask a fresh pacer at the same rate and the same times.
  have alike : (c.ticks actions).map Ticked.pacing = (c'.ticks actions').map Ticked.pacing := by
    rw [Console.ticks_paced, Console.ticks_paced, sameClock]
    rfl
  rw [← List.forall₂_eq_eq_eq, List.forall₂_map_left_iff, List.forall₂_map_right_iff] at alike
  refine alike.imp fun t t' same => ?_
  obtain ⟨waits, reference⟩ := Prod.mk.inj same
  refine ⟨?_, reference⟩
  have both := congrArg (· = false) waits
  simpa using both

/-- One run loads a program and runs it, the other goes through programs that do not arrive, with a machine
that fails. -/
theorem paced_alike_with_faults :
    let screen : Screen := .new { resolution := {}, foreground := ⟨255, 255, 255⟩ }
    let c : Console Puppet Unit := { session := .new {} 60 .promised .builtin, screen, tone := .muted }
    let c' : Console Puppet Unit :=
      { session := .new { faulty := true, sound := true } 60 (.memory []) .builtin
        screen
        tone := { device := some () } }
    let actions : List Action :=
      [.boot, .deliver 0 (.ok [0x12]), .tick 0, .tick 20, .event .halt, .tick 30, .tick 40]
    let actions' : List Action :=
      [.tick 0, .event .nextProgram, .event .resume, .tick 20, .event .step, .tick 30, .boot, .tick 40]
    Action.times actions = Action.times actions' ∧
      List.Forall₂ (fun t t' => (t.answer = .waiting ↔ t'.answer = .waiting) ∧ t.reference = t'.reference)
        (c.ticks actions) (c'.ticks actions') := by
  intro screen c c' actions actions'
  have sameClock : Action.times actions = Action.times actions' := rfl
  exact ⟨sameClock, paced_by_clock_alone 60 _ _ _ _ _ _ screen screen _ _ sameClock⟩

end Chip8Console
