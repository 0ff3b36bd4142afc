import Chip8Console.Machine.Puppet
import Chip8Console.Proofs.Console.Registers
import Mathlib.Data.List.Infix

/-! # Faults

Cycles, instructions and beeps may fail, and frames may have the wrong length.  All of this is reported, and
nothing else comes of it: two consoles whose machines agree on registers and tone do the same, however often
either of them is let down (`faults_change_no_control`).
-/

namespace Chip8Console

namespace Console

variable {σ σ' δ δ' : Type}

/-- The consoles are in the same state and have done the same: the same calls on the machine and on the beeper, the
same fetches and refreshes, in the same order.  Only the machines and beepers themselves, what was drawn and the
notices may differ. -/
structure Lockstep (c : Console σ δ) (d : Console σ' δ') : Prop where
  paired : c.Paired d
  panel : c.session.panel = d.session.panel
  effects : c.session.rig.journal.effects = d.session.rig.journal.effects

variable {c : Console σ δ} {d : Console σ' δ'}

theorem Lockstep.calls (lockstep : c.Lockstep d) :
    c.session.rig.journal.calls = d.session.rig.journal.calls := by
  rw [← Journal.calls_effects, lockstep.effects, Journal.calls_effects]

theorem Lockstep.beeperCalls (lockstep : c.Lockstep d) :
    c.session.rig.journal.beeperCalls = d.session.rig.journal.beeperCalls := by
  rw [← Journal.beeperCalls_effects, lockstep.effects, Journal.beeperCalls_effects]

variable [Machine σ] [Machine σ'] [Beeper δ] [Beeper δ']

/-- The machines agree on all that can be read off them but the picture. -/
structure Agree (c : Console σ δ) (d : Console σ' δ') : Prop where
  registers : Machine.registers c.session.rig.machine = Machine.registers d.session.rig.machine
  sound : c.soundActive = d.soundActive

theorem looks_of_answer {action : Action} (same : c.answer action = d.answer action) :
    c.looks action = d.looks action := by
  cases action with
  | tick now => simp only [looks, Answer.tick.inj same]
  | event event => cases event <;> rfl
  | boot | deliver | abandon => rfl

/-- Whatever fails in an action, two consoles that were in lockstep still are, and have given the same answer, if their
machines agree afterwards. -/
theorem Lockstep.act (lockstep : c.Lockstep d) (action : Action)
    (agree : (c.act action).session.rig.journal.calls = (d.act action).session.rig.journal.calls →
      (c.act action).Agree (d.act action)) :
    c.answer action = d.answer action ∧ (c.act action).Lockstep (d.act action) := by
  obtain ⟨answer, strides⟩ := lockstep.paired.act action fun asked obeys obeys' =>
    (agree (by rw [obeys.calls, obeys'.calls, lockstep.calls])).sound
  obtain ⟨effects, does, does'⟩ := strides.alike
  have same : (c.act action).session.rig.journal.effects = (d.act action).session.rig.journal.effects := by
    rw [does.rig.journal, does'.rig.journal, lockstep.effects]
  -- The tone was needed to see that the same was done; with this, the registers agree as well.
  have registers := (agree (by rw [← Journal.calls_effects, same, Journal.calls_effects])).registers
  have view : (c.act action).session.panel.view = (d.act action).session.panel.view := by
    rw [c.view_act, d.view_act, lockstep.panel, registers, looks_of_answer answer]
  exact ⟨answer, strides.paired, Panel.ext_of_view strides.paired.session.label strides.paired.session.controls
    strides.paired.session.error view, same⟩

theorem Lockstep.run (lockstep : c.Lockstep d) {actions : List Action}
    (agree : ∀ before, before <+: actions →
      (c.run before).session.rig.journal.calls = (d.run before).session.rig.journal.calls →
        (c.run before).Agree (d.run before)) :
    (c.run actions).Lockstep (d.run actions) := by
  induction actions using List.reverseRecOn with
  | nil => exact lockstep
  | append_singleton actions action ih =>
    have last := agree (actions ++ [action]) List.prefix_rfl
    rw [run_concat, run_concat] at last ⊢
    exact ((ih fun before early => agree before (early.trans (List.prefix_append _ _))).act action last).2

end Console

/-- Two consoles with the same settings are handled in the same way, and answered the same by their fetchers.  As long
as their machines, asked for the same, agree on registers and tone, both are in the same state at any time, have done
the same, and give the same answers. -/
theorem faults_change_no_control {σ σ' δ δ' : Type} [Machine σ] [Machine σ'] [Beeper δ] [Beeper δ']
    {machine : σ} {machine' : σ'} {frameRate : Float} {fetcher : Fetcher} {catalog : Catalog}
    {c : Console σ δ} {d : Console σ' δ'} (fresh : c.session = .new machine frameRate fetcher catalog)
    (fresh' : d.session = .new machine' frameRate fetcher catalog) (sounding : c.tone.sounding = d.tone.sounding)
    (audible : c.tone.device.isSome = d.tone.device.isSome) {actions : List Action}
    (agree : ∀ before, before <+: actions →
      (c.run before).session.rig.journal.calls = (d.run before).session.rig.journal.calls →
        (c.run before).Agree (d.run before)) :
    (∀ before, before <+: actions → (c.run before).Lockstep (d.run before) ∧
      (c.run before).session.rig.journal.calls = (d.run before).session.rig.journal.calls ∧
      (c.run before).session.rig.journal.beeperCalls = (d.run before).session.rig.journal.beeperCalls) ∧
    ∀ before action, before ++ [action] <+: actions → (c.run before).answer action = (d.run before).answer action := by
  have start : c.Lockstep d := by
    refine ⟨⟨?_, sounding, audible⟩, ?_, ?_⟩
    all_goals rw [fresh, fresh']
    · exact ⟨rfl, rfl, rfl, rfl, rfl, rfl, rfl⟩
    · rfl
    · rfl
  have lockstep : ∀ before, before <+: actions → (c.run before).Lockstep (d.run before) :=
    fun before early => start.run fun earlier further => agree earlier (further.trans early)
  refine ⟨fun before early => ⟨lockstep before early, (lockstep before early).calls, (lockstep before early).beeperCalls⟩,
    fun before action early => ?_⟩
  have next := agree _ early
  rw [Console.run_concat, Console.run_concat] at next
  exact ((lockstep before ((List.prefix_append _ _).trans early)).act action next).1

/-- A beeper that fails as its script says. -/
structure Balky where
  faults : List Bool

namespace Balky

def answer (b : Balky) : Balky × Option Failure :=
  ({ faults := b.faults.tail }, if b.faults.headD false then some (.sound "no such device") else none)

instance : Beeper Balky where
  beep := answer
  stop := answer

end Balky

/-- One machine and one beeper work, the others fail, and the frames of the failing machine are too short. -/
theorem lockstep_with_faults :
    let screen : Screen := .new { resolution := {}, foreground := ⟨255, 255, 255⟩ }
    let c : Console Puppet Balky :=
      { session := .new { sound := true } 60 .promised .builtin, screen, tone := { device := some ⟨[]⟩ } }
    let d : Console Puppet Balky :=
      { session := .new { sound := true, faulty := true, pixels := [1] } 60 .promised .builtin
        screen
        tone := { device := some ⟨[true, false, true]⟩ } }
    let actions : List Action := [.boot, .deliver 0 (.ok [0x12]), .tick 0, .tick 20, .event .toggleDebug, .event .halt,
      .event .step, .event .nextProgram]
    (∀ before, before <+: actions → (c.run before).Agree (d.run before)) ∧
      (c.run actions).screen.frames = 2 ∧ (d.run actions).screen.frames = 0 ∧
      (c.run actions).session.rig.journal.beeperCalls = [.beep, .stop, .beep, .stop] ∧
      (∀ before, before <+: actions → (c.run before).Lockstep (d.run before) ∧
        (c.run before).session.rig.journal.calls = (d.run before).session.rig.journal.calls ∧
        (c.run before).session.rig.journal.beeperCalls = (d.run before).session.rig.journal.beeperCalls) ∧
      ∀ before action, before ++ [action] <+: actions →
        (c.run before).answer action = (d.run before).answer action := by
  intro screen c d actions
  have alike : ∀ before ∈ actions.inits,
      Machine.registers (c.run before).session.rig.machine = Machine.registers (d.run before).session.rig.machine ∧
        (c.run before).soundActive = (d.run before).soundActive := by decide +kernel
  have agree : ∀ before, before <+: actions → (c.run before).Agree (d.run before) := fun before early =>
    have ⟨registers, sound⟩ := alike before ((List.mem_inits _ _).mpr early)
    ⟨registers, sound⟩
  refine ⟨agree, by decide +kernel, by decide +kernel, by decide +kernel, ?_⟩
  exact faults_change_no_control (c := c) (d := d) rfl rfl rfl rfl fun before early _ => agree before early

end Chip8Console
