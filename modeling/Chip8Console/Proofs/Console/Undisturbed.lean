import Chip8Console.Machine.Puppet
import Chip8Console.Proofs.Console.Frames
import Chip8Console.Proofs.Console.Paired

/-! # Watching and typing

Whoever presses keys or switches the panel only watches, as far as the rest of the console is concerned.  A run in
which some of this is left out goes on beside the whole run, and with a machine that does not show what keys are
pressed it cannot be told from it (`undisturbed_by_watching_and_typing`).
-/

namespace Chip8Console

open Happening (runs frames)

/-! ## Deaf machines -/

namespace Machine

variable {σ : Type} [Machine σ]

/-- All that can be read off a machine. -/
def readings (machine : σ) : Registers × List UInt8 × Bool :=
  (registers machine, contents machine, soundActive machine)

/-- Whatever the machine is asked for, nothing can be read off it about the keys. -/
def Deaf (machine : σ) : Prop :=
  ∀ asked : List Call, readings (after machine asked) = readings (after machine (asked.filter (·.line?.isNone)))

end Machine

/-- The machines of two rigs come from the same one, and were asked for the same but for keys. -/
structure Rig.Kin {σ : Type} [Machine σ] (machine : σ) (r s : Rig σ) : Prop where
  left : r.machine = Machine.after machine r.journal.calls
  right : s.machine = Machine.after machine s.journal.calls
  calls : r.journal.calls.filter (·.line?.isNone) = s.journal.calls.filter (·.line?.isNone)

namespace Rig.Kin

variable {σ : Type} [Machine σ] {machine : σ} {r r' s s' : Rig σ}

theorem readings (kin : Kin machine r s) (deaf : Machine.Deaf machine) :
    Machine.readings r.machine = Machine.readings s.machine := by
  rw [kin.left, kin.right, deaf, kin.calls, ← deaf]

theorem obey (kin : Kin machine r s) {asked asked' : List Call}
    (same : asked.filter (·.line?.isNone) = asked'.filter (·.line?.isNone)) (obeys : r.Obeys asked r')
    (obeys' : s.Obeys asked' s') : Kin machine r' s' where
  left := by rw [obeys.machine, kin.left, ← Machine.after_append, obeys.calls]
  right := by rw [obeys'.machine, kin.right, ← Machine.after_append, obeys'.calls]
  calls := by rw [obeys.calls, obeys'.calls, List.filter_append, List.filter_append, kin.calls, same]

end Rig.Kin

/-- Keys and the panel. -/
def Action.isIdle : Action → Bool
  | .event (.key _) | .event .toggleDebug => true
  | _ => false

attribute [ext] ToneGate

/-- An edge asks for a key and for nothing else. -/
theorem Router.isSome_line?_of_callOf {r : Router} {edge : KeyEdge} {call : Call}
    (asked : r.callOf edge = some call) : call.line?.isSome := by
  cases edge with
  | down key | up key =>
    obtain ⟨line, -, rfl⟩ := Option.map_eq_some_iff.mp asked
    rfl

namespace Console

variable {σ δ : Type}

/-- One console is in the same state as the other, but for the machine itself, the registers on the panel, and the
journal apart from the beeper. -/
structure Beside (c d : Console σ δ) : Prop where
  paired : c.Paired d
  screen : c.screen = d.screen
  tone : c.tone = d.tone
  beeperCalls : c.session.rig.journal.beeperCalls = d.session.rig.journal.beeperCalls

theorem Beside.trans {c d e : Console σ δ} (first : c.Beside d) (second : d.Beside e) : c.Beside e where
  paired := first.paired.trans second.paired
  screen := first.screen.trans second.screen
  tone := first.tone.trans second.tone
  beeperCalls := first.beeperCalls.trans second.beeperCalls

variable [Machine σ] [Beeper δ]

/-! ## What an action shows -/

/-- What is shown in an action is the machine as the action leaves it. -/
theorem frames_happenings (c : Console σ δ) (action : Action) :
    frames (c.happenings action) =
      (runs (c.happenings action)).map fun _ => Machine.contents (c.act action).session.rig.machine := by
  cases action with
  | boot => simp [happenings, frames, runs, Session.filterMap_run?_sent]
  | tick now =>
    simp only [happenings, frames, runs, List.filterMap_append, Session.filterMap_run?_arrival]
    cases (c.tick now).2 <;> rfl
  | event event =>
    cases event with
    | nextProgram | prevProgram => simp [happenings, frames, runs, Session.filterMap_run?_sent]
    | key | halt | resume | step | toggleDebug | quit => rfl
  | deliver | abandon => rfl

theorem runs_of_answer {c d : Console σ δ} {action : Action} (same : c.answer action = d.answer action) :
    runs (c.happenings action) = runs (d.happenings action) := by
  rw [runs_happenings, runs_happenings]
  cases action with
  | tick now => simp only [Answer.tick.inj same]
  | event event => cases event <;> rfl
  | boot | deliver | abandon => rfl

/-! ## Side by side -/

variable {machine : σ} {c d : Console σ δ}

/-- Two consoles that are beside each other do and answer the same, and stay beside each other. -/
theorem Beside.act (beside : c.Beside d) (kin : Rig.Kin machine c.session.rig d.session.rig)
    (deaf : Machine.Deaf machine) (action : Action) :
    c.answer action = d.answer action ∧ c.callsOf action = d.callsOf action ∧
      (c.act action).Beside (d.act action) := by
  have readings {asked : List Call} (obeys : c.session.rig.Obeys asked (c.act action).session.rig)
      (obeys' : d.session.rig.Obeys asked (d.act action).session.rig) :
      Machine.readings (c.act action).session.rig.machine = Machine.readings (d.act action).session.rig.machine :=
    (kin.obey rfl obeys obeys').readings deaf
  obtain ⟨answer, strides⟩ := beside.paired.act action fun asked obeys obeys' =>
    congrArg (·.2.2) (readings obeys obeys')
  obtain ⟨effects, does, does'⟩ := strides.alike
  refine ⟨answer, ?_, strides.paired, ?_, ?_, ?_⟩
  · rw [callsOf_eq does.rig.obeys, callsOf_eq does'.rig.obeys]
  · have contents := congrArg (·.2.1) (readings does.rig.obeys does'.rig.obeys)
    have shown : frames (c.happenings action) = frames (d.happenings action) := by
      rw [frames_happenings, frames_happenings, runs_of_answer answer]
      exact congrArg (fun pixels => (runs (d.happenings action)).map fun _ => pixels) contents
    rw [(c.shows_act action).screen_eq, (d.shows_act action).screen_eq, beside.screen, shown]
  · have device : (c.act action).tone.device = (d.act action).tone.device := by
      rw [does.device, does'.device, beside.tone]
    exact ToneGate.ext device strides.paired.sounding
  · rw [does.rig.beeperCalls, does'.rig.beeperCalls, beside.beeperCalls]

/-- An idle action asks for keys at most, and leaves everything else as it was. -/
theorem idle_act (c : Console σ δ) {action : Action} (idle : action.isIdle) :
    (c.act action).Beside c ∧ ∀ call ∈ c.callsOf action, call.line?.isSome := by
  cases action with
  | event event =>
    cases event with
    | key edge =>
      have does := c.session.router.does_edge edge c.session.rig
      refine ⟨⟨⟨?_, rfl, rfl⟩, rfl, rfl, ?_⟩, ?_⟩
      · exact ⟨Router.fetches_edge _ _ _, rfl, rfl, rfl, rfl, rfl, rfl⟩
      · refine (Rig.Does.beeperCalls does).trans ?_
        simp [Entry.beeper?]
      · rw [callsOf_eq does.obeys]
        intro call among
        exact Router.isSome_line?_of_callOf (by simpa using among)
    | toggleDebug =>
      obtain ⟨debug, shown⟩ := c.session.panel.toggleDebug.updateDebug_eq (Machine.registers c.session.rig.machine)
      refine ⟨⟨⟨?_, rfl, rfl⟩, rfl, rfl, rfl⟩, ?_⟩
      · simp only [act, handle, toggleDebug, session_within, shown]
        exact ⟨rfl, rfl, rfl, rfl, rfl, rfl, rfl⟩
      · simp [callsOf, act, handle, toggleDebug]
    | halt | resume | step | nextProgram | prevProgram | quit => cases idle
  | boot | tick | deliver | abandon => cases idle

/-! ## Marked runs -/

def answered (c : Console σ δ) (action : Action) : List Answer :=
  [c.answer action]

/-- What the actions of a run come to, each with the mark of its action. -/
def along {α : Type} (f : Console σ δ → Action → List α) (c : Console σ δ) : List (Action × Bool) → List (α × Bool)
  | [] => []
  | (action, kept) :: marked => (f c action).map (·, kept) ++ (c.act action).along f marked

theorem calls_run (c : Console σ δ) (marked : List (Action × Bool)) :
    (c.run (marked.map (·.1))).session.rig.journal.calls =
      c.session.rig.journal.calls ++ (c.along callsOf marked).map (·.1) := by
  induction marked generalizing c with
  | nil => simp [along]
  | cons mark marked ih =>
    rw [List.map_cons, run_cons, ih, (c.obeys_act mark.1).calls, along, List.map_append, List.map_map, List.append_assoc]
    congr 2
    exact (List.map_id' _).symm

/-- The idle actions of a run ask for keys at most. -/
theorem keys_along (c : Console σ δ) {marked : List (Action × Bool)}
    (idle : ∀ mark ∈ marked, mark.2 = false → mark.1.isIdle) :
    ∀ call ∈ c.along callsOf marked, call.2 = false → call.1.line?.isSome := by
  induction marked generalizing c with
  | nil => simp [along]
  | cons mark marked ih =>
    obtain ⟨action, kept⟩ := mark
    rw [List.forall_mem_cons] at idle
    rw [along, List.forall_mem_append]
    refine ⟨fun call among left => ?_, ih (c.act action) idle.2⟩
    obtain ⟨asked, made, rfl⟩ := List.mem_map.mp among
    exact (c.idle_act (idle.1 left)).2 asked made

/-- What is left out of a run makes no difference to the rest of it. -/
theorem Beside.along (beside : c.Beside d) (kin : Rig.Kin machine c.session.rig d.session.rig)
    (deaf : Machine.Deaf machine) {marked : List (Action × Bool)}
    (idle : ∀ mark ∈ marked, mark.2 = false → mark.1.isIdle) :
    d.along answered (marked.filter (·.2)) = (c.along answered marked).filter (·.2) ∧
      d.along callsOf (marked.filter (·.2)) = (c.along callsOf marked).filter (·.2) ∧
      (c.run (marked.map (·.1))).Beside (d.run ((marked.filter (·.2)).map (·.1))) := by
  induction marked generalizing c d with
  | nil => exact ⟨rfl, rfl, beside⟩
  | cons mark marked ih =>
    obtain ⟨action, kept⟩ := mark
    rw [List.forall_mem_cons] at idle
    cases kept with
    | true =>
      -- Both consoles take the action.
      obtain ⟨answer, calls, next⟩ := beside.act kin deaf action
      have both := c.obeys_act action
      rw [calls] at both
      obtain ⟨answers, asked, after⟩ := ih next (kin.obey rfl both (d.obeys_act action)) idle.2
      refine ⟨?_, ?_, after⟩
      · simp [Console.along, answered, answer, answers]
      · simp [Console.along, calls, asked, List.filter_map, Function.comp_def]
    | false =>
      -- Only the whole run takes it; the other console waits.
      obtain ⟨still, keys⟩ := c.idle_act (idle.1 rfl)
      have none : (c.callsOf action).filter (·.line?.isNone) = [] := by
        rw [List.filter_eq_nil_iff]
        intro call made
        simp [Option.isSome_iff_ne_none.mp (keys call made)]
      have stays : d.session.rig.Obeys [] d.session.rig := (Rig.Does.refl _).obeys
      obtain ⟨answers, asked, after⟩ := ih (still.trans beside) (kin.obey none (c.obeys_act action) stays) idle.2
      refine ⟨?_, ?_, after⟩
      · simp [Console.along, answered, answers]
      · simp [Console.along, asked, List.filter_map, Function.comp_def]

end Console

open Console (answered callsOf)

/-- Keys and looks at the registers may be left out of a run wherever one likes: what remains gets the same answers,
asks the machine for the same, and leaves the same console behind.  Those that are left out have asked the machine
for keys and for nothing else. -/
theorem undisturbed_by_watching_and_typing {σ δ : Type} [Machine σ] [Beeper δ] {machine : σ}
    (deaf : Machine.Deaf machine) {frameRate : Float} {fetcher : Fetcher} {catalog : Catalog} {c : Console σ δ}
    (fresh : c.session = .new machine frameRate fetcher catalog) {marked : List (Action × Bool)}
    (idle : ∀ mark ∈ marked, mark.2 = false → mark.1.isIdle) :
    let erased := marked.filter (·.2)
    let whole := c.run (marked.map (·.1))
    let rest := c.run (erased.map (·.1))
    c.along answered erased = (c.along answered marked).filter (·.2) ∧
      whole.session.rig.journal.calls = (c.along callsOf marked).map (·.1) ∧
      rest.session.rig.journal.calls = ((c.along callsOf marked).filter (·.2)).map (·.1) ∧
      (∀ call ∈ c.along callsOf marked, call.2 = false → call.1.line?.isSome) ∧
      whole.Beside rest := by
  intro erased whole rest
  have untouched : c.session.rig.journal.calls = [] := by
    rw [fresh]
    rfl
  have kin : Rig.Kin machine c.session.rig c.session.rig := by
    have same : c.session.rig.machine = Machine.after machine c.session.rig.journal.calls := by
      rw [untouched, fresh]
      rfl
    exact ⟨same, same, rfl⟩
  have beside : c.Beside c := ⟨.refl c, rfl, rfl, rfl⟩
  obtain ⟨answers, asked, after⟩ := beside.along kin deaf idle
  refine ⟨answers, ?_, ?_, c.keys_along idle, after⟩
  · rw [c.calls_run marked, untouched, List.nil_append]
  · rw [c.calls_run erased, untouched, List.nil_append, asked]

theorem Puppet.deaf (puppet : Puppet) : Machine.Deaf puppet := by
  intro asked
  have same : Machine.after puppet asked = Machine.after puppet (asked.filter (·.line?.isNone)) := by
    induction asked generalizing puppet with
    | nil => rfl
    | cons call asked ih => cases call <;> exact ih _
  rw [same]

/-- A key that is held while the registers are shown. -/
theorem undisturbed_by_held_key :
    let c : Console Puppet Unit :=
      { session := .new { sound := true } 60 .promised .builtin
        screen := .new { resolution := {}, foreground := ⟨255, 255, 255⟩ }
        tone := { device := some () } }
    let marked : List (Action × Bool) := [(.boot, true), (.event .toggleDebug, false), (.deliver 0 (.ok [0x12]), true),
      (.tick 0, true), (.event (.key (.down ⟨81⟩)), false), (.tick 20, true), (.event (.key (.up ⟨81⟩)), false),
      (.event .halt, true)]
    (∀ mark ∈ marked, mark.2 = false → mark.1.isIdle) ∧
      ((c.along callsOf marked).filter (!·.2)).map (·.1) = [.press 4, .release 4] ∧
      let erased := marked.filter (·.2)
      let whole := c.run (marked.map (·.1))
      let rest := c.run (erased.map (·.1))
      c.along answered erased = (c.along answered marked).filter (·.2) ∧
      whole.session.rig.journal.calls = (c.along callsOf marked).map (·.1) ∧
      rest.session.rig.journal.calls = ((c.along callsOf marked).filter (·.2)).map (·.1) ∧
      (∀ call ∈ c.along callsOf marked, call.2 = false → call.1.line?.isSome) ∧
      whole.Beside rest := by
  intro c marked
  have idle : ∀ mark ∈ marked, mark.2 = false → mark.1.isIdle := by decide
  exact ⟨idle, by decide +kernel, undisturbed_by_watching_and_typing (Puppet.deaf _) rfl idle⟩

end Chip8Console
