import Chip8Console.Machine.Puppet
import Chip8Console.Proofs.Console.Paired

/-! # The registers on the panel

The panel keeps the registers as they were when it was last shown the machine: after a cycle, after an instruction,
or when it was switched.  In between the loader may reset the machine and fill it, and the panel does not look
again.  So what is on the panel is what the machine has now, unless a program was sent for or loaded since the
panel last looked (`registers_as_last_looked_at`).
-/

namespace Chip8Console

/-! ## A look at the machine -/

namespace Panel

/-- Whether the registers are to be shown, and the ones that were looked at last. -/
def view (p : Panel) : Bool × Option Registers :=
  (p.debugVisible, p.debug)

theorem view_updateDebug (p : Panel) (registers : Registers) :
    (p.updateDebug registers).view = (p.debugVisible, if p.debugVisible then some registers else p.debug) := by
  unfold updateDebug
  split <;> rfl

theorem ext_of_view {p q : Panel} (label : p.label = q.label) (controls : p.controls = q.controls)
    (error : p.error = q.error) (view : p.view = q.view) : p = q := by
  obtain ⟨visible, debug⟩ := Prod.mk.inj view
  cases p
  cases q
  subst label controls error visible debug
  rfl

/-- These registers stand on the panel, in its last lines. -/
structure Shows (p : Panel) (registers : Registers) : Prop where
  debug : p.debug = some registers
  lines : p.lines = (p.label :: (p.error.toList.map ("error: " ++ ·) ++ "" :: p.controls)) ++
    "" :: registerLines registers

theorem Shows.of_visible {p : Panel} {registers : Registers} (visible : p.debugVisible)
    (debug : p.debug = some registers) : p.Shows registers := by
  refine ⟨debug, ?_⟩
  simp [Panel.lines, visible, debug]

end Panel

/-- Keys leave the registers alone. -/
def Machine.KeysSpareRegisters (σ : Type) [Machine σ] : Prop :=
  ∀ (machine : σ) (line : UInt8), registers (press machine line) = registers machine ∧
    registers (release machine line) = registers machine

theorem Router.registers_edge {σ : Type} [Machine σ] (spared : Machine.KeysSpareRegisters σ) (r : Router)
    (edge : KeyEdge) (rig : Rig σ) :
    Machine.registers (r.edge edge rig).1.machine = Machine.registers rig.machine := by
  rcases r.edge_cases edge rig with ⟨-, moved⟩ | ⟨line, -, moved⟩ | ⟨line, -, moved⟩
  · rw [moved]
  · rw [moved]
    exact (spared rig.machine line).1
  · rw [moved]
    exact (spared rig.machine line).2

/-- The panel is shown or hidden. -/
def Action.switches : Action → Bool
  | .event .toggleDebug => true
  | _ => false

namespace Session

variable {σ : Type} [Machine σ]

theorem view_select (s : Session σ) (index : Nat) : (s.select index).1.panel.view = s.panel.view := by
  unfold select
  split
  · rfl
  · cases s.loader.catalog.get? index <;> rfl

theorem view_poll (s : Session σ) : s.poll.1.panel.view = s.panel.view := by
  rcases s.poll_cases with ⟨same, -⟩ | ⟨ticket, -, ⟨bytes, after, -⟩ | ⟨failure, after, -⟩⟩
  · rw [same]
  · rw [after]
    rfl
  · rw [after]
    rfl

/-- Only what is sent for resets the machine. -/
theorem machine_select (s : Session σ) (index : Nat)
    (none : ∀ happening ∈ (sent (s.select index).2 : List (Happening σ)), happening.isSent = false) :
    (s.select index).1.rig.machine = s.rig.machine := by
  unfold select at none ⊢
  split
  · rfl
  · rename_i idle
    rw [if_neg idle] at none
    cases listed : s.loader.catalog.get? index with
    | none => rfl
    | some program =>
      rw [listed] at none
      cases none _ List.mem_cons_self

/-- Only what is loaded goes into the machine. -/
theorem machine_poll (s : Session σ) (none : ∀ happening ∈ s.arrival, happening.isLoaded = false) :
    s.poll.1.rig.machine = s.rig.machine := by
  rcases s.poll_cases with ⟨same, -⟩ | ⟨ticket, -, ⟨bytes, -, arrived⟩ | ⟨failure, after, -⟩⟩
  · rw [same]
  · rw [arrived] at none
    cases none _ List.mem_cons_self
  · rw [after]
    rfl

end Session

namespace Console

variable {σ δ : Type} [Machine σ] [Beeper δ]

/-- The panel gets to see the machine. -/
def looks (c : Console σ δ) : Action → Bool
  | .tick now => (c.tick now).2 = .executed
  | .event .step | .event .toggleDebug => true
  | _ => false

omit [Beeper δ] in
theorem view_pollLoad (c : Console σ δ) : c.pollLoad.session.panel.view = c.session.panel.view :=
  (congrArg Panel.view c.pollLoad_alike.panel).trans c.session.view_poll

/-- An action that shows the panel nothing leaves it as it is. -/
theorem view_of_not_looks (c : Console σ δ) {action : Action} (away : c.looks action = false) :
    (c.act action).session.panel.view = c.session.panel.view := by
  cases action with
  | boot => exact (congrArg Panel.view (choose_alike c _).panel).trans (Session.view_select _ _)
  | tick now =>
    rcases c.tick_cases now with ⟨-, -, left⟩ | ⟨-, outcome, -⟩
    · exact (congrArg Panel.view left.panel).trans c.view_pollLoad
    · simp [looks, outcome] at away
  | event event =>
    cases event with
    | key | halt | resume | quit => rfl
    | nextProgram | prevProgram => exact (congrArg Panel.view (change_alike c _).panel).trans (Session.view_select _ _)
    | step | toggleDebug => cases away
  | deliver | abandon => rfl

/-- The panel is switched by hand only.  What it shows comes from the machine as the action has left it. -/
theorem view_act (c : Console σ δ) (action : Action) :
    let visible := c.session.panel.debugVisible ^^ action.switches
    (c.act action).session.panel.view = (visible, if c.looks action && visible then
      some (Machine.registers (c.act action).session.rig.machine) else c.session.panel.debug) := by
  intro visible
  cases looks : c.looks action with
  | false =>
    -- To switch the panel is to look, so here it is not switched.
    have kept : action.switches = false := by
      cases action with
      | event event =>
        cases event with
        | step | toggleDebug => cases looks
        | key | halt | resume | nextProgram | prevProgram | quit => rfl
      | boot | tick | deliver | abandon => rfl
    rw [c.view_of_not_looks looks]
    simp [visible, kept, Panel.view]
  | true =>
    cases action with
    | tick now =>
      rcases c.tick_cases now with ⟨-, outcome, -⟩ | ⟨-, -, left⟩
      · have idle : (c.tick now).2 ≠ .executed := by
          rw [outcome]
          split <;> simp
        exact absurd (of_decide_eq_true looks) idle
      · obtain ⟨shown, debug⟩ := Prod.mk.inj c.view_pollLoad
        have same : visible = c.session.panel.debugVisible := Bool.xor_false _
        rw [act, left.panel, left.machine, Panel.view_updateDebug, shown, debug, same]
        rfl
    | event event =>
      cases event with
      | step =>
        have same : visible = c.session.panel.debugVisible := Bool.xor_false _
        rw [act, handle, c.step_alike.panel, c.step_alike.machine, Panel.view_updateDebug, same]
        rfl
      | toggleDebug =>
        have same : visible = !c.session.panel.debugVisible := Bool.xor_true _
        rw [same]
        exact Panel.view_updateDebug _ _
      | key | halt | resume | nextProgram | prevProgram | quit => cases looks
    | boot | deliver | abandon => cases looks

theorem shows_of_looks (c : Console σ δ) {action : Action} (looks : c.looks action)
    (visible : (c.act action).session.panel.debugVisible) :
    (c.act action).session.panel.Shows (Machine.registers (c.act action).session.rig.machine) := by
  obtain ⟨switched, debug⟩ := Prod.mk.inj (c.view_act action)
  rw [looks, ← switched, visible] at debug
  exact .of_visible visible debug

/-! ## The machine between two looks -/

/-- Whatever the panel is not shown leaves the registers alone, but for a program that is sent for or loaded. -/
theorem registers_of_not_looks (spared : Machine.KeysSpareRegisters σ) (c : Console σ δ) {action : Action}
    (away : c.looks action = false)
    (neither : ∀ happening ∈ c.happenings action, happening.isSent = false ∧ happening.isLoaded = false) :
    Machine.registers (c.act action).session.rig.machine = Machine.registers c.session.rig.machine := by
  cases action with
  | boot =>
    simp only [happenings, boot, choose_snd] at neither
    have kept := Session.machine_select _ _ fun happening among => (neither happening among).1
    exact congrArg Machine.registers ((choose_alike c _).machine.trans kept)
  | tick now =>
    have kept := Session.machine_poll c.session fun happening among =>
      (neither happening (List.mem_append_left _ among)).2
    rcases c.tick_cases now with ⟨-, -, left⟩ | ⟨-, outcome, -⟩
    · exact congrArg Machine.registers (left.machine.trans (c.pollLoad_alike.machine.trans kept))
    · simp [looks, outcome] at away
  | event event =>
    cases event with
    | key edge => exact Router.registers_edge spared _ edge _
    | nextProgram | prevProgram =>
      have kept := Session.machine_select _ _ fun happening among => (neither happening among).1
      exact congrArg Machine.registers ((change_alike c _).machine.trans kept)
    | halt | resume | quit => rfl
    | step | toggleDebug => cases away
  | deliver ticket answer => exact congrArg Machine.registers (Rig.machine_deliver _ ticket answer)
  | abandon ticket => exact congrArg Machine.registers (Rig.machine_abandon _ ticket)

/-- Nothing in a run shows the panel the machine. -/
def looksAway (c : Console σ δ) : List Action → Bool
  | [] => true
  | action :: actions => !c.looks action && (c.act action).looksAway actions

/-- A run in which the panel is not shown the machine leaves it as it is.  It leaves the registers as well, unless
a program is sent for or loaded. -/
theorem run_of_looksAway (c : Console σ δ) {actions : List Action} (away : c.looksAway actions) :
    (c.run actions).session.panel.view = c.session.panel.view ∧
      (Machine.KeysSpareRegisters σ →
        (∀ happening ∈ c.history actions, happening.isSent = false ∧ happening.isLoaded = false) →
          Machine.registers (c.run actions).session.rig.machine = Machine.registers c.session.rig.machine) := by
  induction actions generalizing c with
  | nil => exact ⟨rfl, fun _ _ => rfl⟩
  | cons action actions ih =>
    simp only [looksAway, Bool.and_eq_true, Bool.not_eq_true'] at away
    obtain ⟨view, registers⟩ := ih (c.act action) away.2
    refine ⟨view.trans (c.view_of_not_looks away.1), fun spared neither => ?_⟩
    rw [history, List.forall_mem_append] at neither
    exact (registers spared neither.2).trans (registers_of_not_looks spared c away.1 neither.1)

/-- In a run the panel looks for a last time, or never. -/
theorem last_look (c : Console σ δ) (actions : List Action) :
    c.looksAway actions ∨ ∃ before look after, actions = before ++ look :: after ∧ (c.run before).looks look ∧
      (c.run (before ++ [look])).looksAway after := by
  induction actions generalizing c with
  | nil => exact .inl rfl
  | cons action actions ih =>
    rcases ih (c.act action) with away | ⟨before, look, after, rfl, looks, away⟩
    · cases looks : c.looks action with
      | false => exact .inl (by simp [looksAway, looks, away])
      | true => exact .inr ⟨[], action, actions, rfl, looks, away⟩
    · exact .inr ⟨action :: before, look, after, rfl, looks, away⟩

end Console

/-- Whenever the registers are to be shown, they stand on the panel as the machine had them when the panel last
looked: right after a cycle or an instruction, or when it was switched.  They are the ones that the machine has now
if no program was sent for or loaded since. -/
theorem registers_as_last_looked_at {σ δ : Type} [Machine σ] [Beeper δ] (spared : Machine.KeysSpareRegisters σ)
    {machine : σ} {frameRate : Float} {fetcher : Fetcher} {catalog : Catalog} {c : Console σ δ}
    (fresh : c.session = .new machine frameRate fetcher catalog) {actions : List Action}
    (visible : (c.run actions).session.panel.debugVisible) :
    let d := c.run actions
    ∃ before look after, actions = before ++ look :: after ∧
      let seen := c.run (before ++ [look])
      (c.run before).looks look ∧ seen.looksAway after ∧
      d.session.panel.Shows (Machine.registers seen.session.rig.machine) ∧
      ((∀ happening ∈ seen.history after, happening.isSent = false ∧ happening.isLoaded = false) →
        d.session.panel.Shows (Machine.registers d.session.rig.machine)) := by
  intro d
  rcases c.last_look actions with away | ⟨before, look, after, rfl, looks, away⟩
  · -- The panel is hidden at first.
    have hidden := congrArg Prod.fst (c.run_of_looksAway away).1
    rw [show (c.run actions).session.panel.view.1 = true from visible, fresh] at hidden
    cases hidden
  · let seen := c.run (before ++ [look])
    have split : d = seen.run after := by
      rw [show d = c.run (before ++ look :: after) from rfl, List.append_cons, Console.run_append]
    obtain ⟨kept, registers⟩ := seen.run_of_looksAway away
    rw [← split] at kept registers
    obtain ⟨shown, debug⟩ := Prod.mk.inj kept
    -- What was seen then is still there, since the panel cannot be switched without a look.
    have shows : d.session.panel.Shows (Machine.registers seen.session.rig.machine) := by
      have saw := (c.run before).shows_of_looks looks
      rw [← Console.run_concat] at saw
      exact .of_visible visible (debug.trans (saw (shown.symm.trans visible)).debug)
    refine ⟨before, look, after, rfl, looks, away, shows, fun neither => ?_⟩
    rw [registers spared neither]
    exact shows

/-- The panel still shows what it saw at the step, whatever was pressed, sent for and given up since. -/
theorem registers_as_seen_at_step :
    let c : Console Puppet Unit :=
      { session := .new {} 60 .promised .builtin
        screen := .new { resolution := {}, foreground := ⟨255, 255, 255⟩ }
        tone := .muted }
    let actions : List Action := [.boot, .event .toggleDebug, .deliver 0 (.ok [0x12]), .tick 0, .event .step,
      .event (.key (.down ⟨37⟩)), .event .nextProgram, .abandon 1, .tick 10]
    Machine.KeysSpareRegisters Puppet ∧ (c.run actions).session.panel.debugVisible ∧
      let d := c.run actions
      ∃ before look after, actions = before ++ look :: after ∧
        let seen := c.run (before ++ [look])
        (c.run before).looks look ∧ seen.looksAway after ∧
        d.session.panel.Shows (Machine.registers seen.session.rig.machine) ∧
        ((∀ happening ∈ seen.history after, happening.isSent = false ∧ happening.isLoaded = false) →
          d.session.panel.Shows (Machine.registers d.session.rig.machine)) := by
  intro c actions
  have spared : Machine.KeysSpareRegisters Puppet := fun _ _ => ⟨rfl, rfl⟩
  have visible : (c.run actions).session.panel.debugVisible := by decide +kernel
  exact ⟨spared, visible, registers_as_last_looked_at spared rfl visible⟩

/-- A program that is sent for resets the machine, and the panel goes on to show the registers of the old one. -/
theorem old_registers_after_next_program :
    let c : Console Puppet Unit :=
      { session := .new {} 60 .promised .builtin
        screen := .new { resolution := {}, foreground := ⟨255, 255, 255⟩ }
        tone := .muted }
    let d := c.run [.boot, .deliver 0 (.ok [0x12]), .tick 0, .tick 20, .event .toggleDebug, .event .nextProgram]
    Machine.KeysSpareRegisters Puppet ∧ d.session.panel.debugVisible ∧
      Machine.registers d.session.rig.machine = {} ∧
      d.session.panel.Shows { programCounter := 2 } ∧
      d.session.panel.debug ≠ some (Machine.registers d.session.rig.machine) := by
  intro c d
  have visible : d.session.panel.debugVisible := by decide +kernel
  have debug : d.session.panel.debug = some { programCounter := 2 } := by decide +kernel
  have reset : Machine.registers d.session.rig.machine = {} := by decide +kernel
  refine ⟨fun _ _ => ⟨rfl, rfl⟩, visible, reset, .of_visible visible debug, ?_⟩
  rw [debug, reset]
  decide

end Chip8Console
