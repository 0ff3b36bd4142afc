import Chip8Console.Proofs.Console.Frames
import Chip8Console.Proofs.Console.Pacing
import Chip8Console.Proofs.Console.Paired

/-! # Halting

The scheduler runs as the latest halt, resumption or load has left it (`Switched`).  Loads count although they
come from within: a tick polls before it asks the scheduler, so a program that has just arrived runs at once,
even if the console was halted while it was on its way.  Until then nothing but steps runs a halted machine
(`halted_until_resumed`).  That it is run is said of the machine itself: it goes through the calls in the journal
and through nothing else.
-/

namespace Chip8Console

open Happening (runs frames)

namespace Happening

variable {σ : Type}

/-- What a happening makes of the scheduler, if it concerns whether that runs. -/
def switch? : Happening σ → Option Bool
  | .halted => some false
  | .resumed | .loaded _ => some true
  | .sent _ | .failed .. | .edge _ | .ran _ | .stepped _ => none

/-- Whether the scheduler runs after a history, if it did so before as given. -/
def runningAfter (before : Bool) (history : List (Happening σ)) : Bool :=
  (history.filterMap switch?).getLast?.getD before

theorem runningAfter_append (before : Bool) (history more : List (Happening σ)) :
    runningAfter before (history ++ more) = runningAfter (runningAfter before history) more := by
  simp only [runningAfter, List.filterMap_append, List.getLast?_append]
  cases (more.filterMap switch?).getLast? <;> rfl

/-- The history ends with a resumption or a load, as far as the scheduler is concerned. -/
theorem runningAfter_false_iff {history : List (Happening σ)} :
    runningAfter false history = true ↔ ∃ earlier happening later,
      history = earlier ++ happening :: later ∧ happening.switch? = some true ∧
        ∀ other ∈ later, other.switch? = none := by
  rw [runningAfter, Option.getD_eq_iff, or_iff_left (by simp), getLast?_filterMap_eq_some_iff]

theorem runningAfter_of_none {history : List (Happening σ)}
    (none : ∀ happening ∈ history, happening.switch? ≠ some true) : runningAfter false history = false := by
  rw [← Bool.not_eq_true, runningAfter_false_iff]
  rintro ⟨earlier, happening, later, rfl, starts, -⟩
  exact none happening (by simp) starts

theorem switch?_eq_true_iff {happening : Happening σ} :
    happening.switch? = some true ↔ happening = .resumed ∨ ∃ index, happening = .loaded index := by
  cases happening <;> simp [switch?]

end Happening

open Happening (runningAfter)

def Action.isStep : Action → Bool
  | .event .step => true
  | _ => false

theorem Session.filterMap_switch?_sent {σ : Type} (answer : Except Failure Selection) :
    (sent answer : List (Happening σ)).filterMap Happening.switch? = [] :=
  filterMap_sent (fun _ => rfl) answer

/-- What happens to a scheduler meanwhile, its pacer apart. -/
structure Switched {σ : Type} (happenings : List (Happening σ)) (s t : Scheduler Float) : Prop where
  running : t.running = runningAfter s.running happenings
  cycles : t.cycles = s.cycles + (runs happenings).count .cycle
  steps : t.steps = s.steps + (runs happenings).count .opCode

theorem switched_of_same {σ : Type} {happenings : List (Happening σ)} {s t : Scheduler Float} (same : t = s)
    (none : happenings.filterMap Happening.switch? = []) (noRun : happenings.filterMap Happening.run? = []) :
    Switched happenings s t := by
  subst same
  exact ⟨by simp [runningAfter, none], by simp [runs, noRun], by simp [runs, noRun]⟩

theorem Switched.trans {σ : Type} {happenings more : List (Happening σ)} {s t u : Scheduler Float}
    (first : Switched happenings s t) (second : Switched more t u) : Switched (happenings ++ more) s u := by
  refine ⟨?_, ?_, ?_⟩
  · rw [second.running, first.running, Happening.runningAfter_append]
  · rw [second.cycles, first.cycles]
    simp [runs, Nat.add_assoc]
  · rw [second.steps, first.steps]
    simp [runs, Nat.add_assoc]

/-- A load starts the scheduler, and one that fails leaves it as it is. -/
theorem Session.switched_poll {σ : Type} [Machine σ] (s : Session σ) :
    Switched s.arrival s.scheduler s.poll.1.scheduler := by
  rcases s.poll_cases with ⟨same, arrived⟩ | ⟨ticket, -, ⟨bytes, after, arrived⟩ | ⟨failure, after, arrived⟩⟩
  · rw [same, arrived]
    exact switched_of_same rfl rfl rfl
  · rw [after, arrived]
    exact ⟨rfl, rfl, rfl⟩
  · rw [after, arrived]
    exact switched_of_same rfl rfl rfl

namespace Console

variable {σ δ : Type} [Machine σ] [Beeper δ]

omit [Beeper δ] in
theorem switched_pollLoad (c : Console σ δ) :
    Switched c.session.arrival c.session.scheduler c.pollLoad.session.scheduler := by
  rw [(pollLoad_alike c).scheduler]
  exact c.session.switched_poll

theorem switched_act (c : Console σ δ) (action : Action) :
    Switched (c.happenings action) c.session.scheduler (c.act action).session.scheduler := by
  have chosen {d : Console σ δ} {index : Nat} (alike : d.session.Alike (c.session.select index).1)
      (answer : Except Failure Selection) :
      Switched (Session.sent answer : List (Happening σ)) c.session.scheduler d.session.scheduler :=
    switched_of_same (alike.scheduler.trans (Session.scheduler_select _ _)) (Session.filterMap_switch?_sent _)
      (Session.filterMap_run?_sent _)
  cases action with
  | boot => exact chosen (choose_alike c (·.select 0)) _
  | tick now =>
    -- A load that has arrived counts before the frame does.
    refine c.switched_pollLoad.trans ?_
    rcases c.tick_cases now with ⟨-, outcome, left⟩ | ⟨-, outcome, left⟩
    · rw [show (c.act (.tick now)).session.scheduler = _ from left.scheduler, outcome]
      cases (c.pollLoad.session.scheduler.pacer.advance now).2 <;> exact ⟨rfl, rfl, rfl⟩
    · rw [show (c.act (.tick now)).session.scheduler = _ from left.scheduler, outcome]
      exact ⟨rfl, rfl, rfl⟩
  | event event =>
    cases event with
    | key edge => exact switched_of_same rfl rfl rfl
    | halt =>
      rw [show (c.act (.event .halt)).session.scheduler = _ from (halt_alike c).scheduler]
      exact ⟨rfl, rfl, rfl⟩
    | resume => exact ⟨rfl, rfl, rfl⟩
    | step =>
      rw [show (c.act (.event .step)).session.scheduler = _ from (step_alike c).scheduler]
      exact ⟨rfl, rfl, rfl⟩
    | nextProgram => exact chosen (change_alike c Session.selectNext) _
    | prevProgram => exact chosen (change_alike c Session.selectPrev) _
    | toggleDebug | quit => exact switched_of_same rfl rfl rfl
  | deliver | abandon => exact switched_of_same rfl rfl rfl

theorem switched_run (c : Console σ δ) (actions : List Action) :
    Switched (c.history actions) c.session.scheduler (c.run actions).session.scheduler :=
  run_induction_nil (P := fun past d => Switched past c.session.scheduler d.session.scheduler)
    (switched_of_same rfl rfl rfl) (fun _ d action switched => switched.trans (d.switched_act action)) actions

/-- The scheduler runs once the tick has polled, and the machine that the poll has left runs one cycle. -/
theorem tick_of_executed {c : Console σ δ} {now : Float} (executed : (c.tick now).2 = .executed) :
    c.pollLoad.session.scheduler.running = true ∧
      (c.tick now).1.session.rig.machine = (Machine.runCycle c.pollLoad.session.rig.machine).1 := by
  rcases c.tick_cases now with ⟨-, outcome, -⟩ | ⟨due, -, left⟩
  · rw [outcome] at executed
    split at executed <;> cases executed
  · exact ⟨(Bool.and_eq_true_iff.mp due).2, left.machine⟩

/-- A cycle is run by a tick that finds the scheduler running, and one at a time. -/
theorem cycles_act (c : Console σ δ) (action : Action) :
    (c.act action).session.rig.cycles = c.session.rig.cycles ∨
    ∃ now, action = .tick now ∧ (c.tick now).2 = .executed ∧ c.pollLoad.session.scheduler.running = true ∧
      (c.act action).session.rig.cycles = c.session.rig.cycles + 1 ∧
      (c.act action).session.rig.machine = (Machine.runCycle c.pollLoad.session.rig.machine).1 := by
  have counted : (c.act action).session.rig.cycles =
      c.session.rig.cycles + (runs (c.happenings action)).count .cycle := (c.shows_act action).count rfl
  rw [c.runs_happenings action] at counted
  cases action with
  | tick now =>
    by_cases executed : (c.tick now).2 = .executed
    · obtain ⟨running, cycled⟩ := tick_of_executed executed
      exact .inr ⟨now, rfl, executed, running, by simpa [executed] using counted, cycled⟩
    · exact .inl (by simpa [executed] using counted)
  | event event => cases event <;> exact .inl counted
  | boot | deliver | abandon => exact .inl counted

/-- As long as nothing starts it, a halted machine is run by steps only. -/
theorem runs_of_halted {c : Console σ δ} (halted : c.session.scheduler.running = false)
    {actions : List Action} (stays : ∀ happening ∈ c.history actions, happening.switch? ≠ some true) :
    runs (c.history actions) = List.replicate (actions.countP Action.isStep) .opCode := by
  induction actions generalizing c with
  | nil => rfl
  | cons action actions ih =>
    -- The first action leaves the scheduler halted, so the rest starts out like the whole.
    simp only [history, List.mem_append, or_imp, forall_and] at stays
    obtain ⟨now, later⟩ := stays
    have next : (c.act action).session.scheduler.running = false := by
      rw [(c.switched_act action).running, halted]
      exact Happening.runningAfter_of_none now
    have first : runs (c.happenings action) = if action.isStep then [.opCode] else [] := by
      rw [c.runs_happenings action]
      cases action with
      | tick time =>
        -- The poll of the tick may not start the scheduler either.
        have idle : (c.tick time).2 ≠ .executed := by
          intro executed
          have running := (tick_of_executed executed).1
          rw [c.switched_pollLoad.running, halted, Happening.runningAfter_of_none] at running
          · cases running
          · exact fun happening among => now happening (List.mem_append_left _ among)
        simp [idle, Action.isStep]
      | event event => cases event <;> rfl
      | boot | deliver | abandon => rfl
    have split : runs (c.history (action :: actions)) =
        runs (c.happenings action) ++ runs ((c.act action).history actions) := by
      simp [history, runs]
    rw [split, first, ih next later, List.countP_cons]
    cases action.isStep <;> simp [List.replicate_succ]

theorem obeys_step (c : Console σ δ) : c.session.rig.Obeys [.opCode] c.step.session.rig where
  calls := by
    rw [(step_alike c).calls]
    exact Journal.calls_of_deeds (Rig.deeds_runOpCode _)
  machine := (step_alike c).machine

/-- What a run asks of the machine, as far as it runs it. -/
theorem exists_obeys_run (c : Console σ δ) (actions : List Action) :
    ∃ asked, c.session.rig.Obeys asked (c.run actions).session.rig ∧
      ∀ call : Call, call.isRun → asked.count call = (runs (c.history actions)).count call := by
  obtain ⟨effects, does⟩ := c.exists_does_run actions
  refine ⟨_, does.rig.obeys, fun call run => ?_⟩
  have counted := c.count_run actions run
  rw [Rig.count, does.rig.obeys.calls, List.count_append] at counted
  exact Nat.add_left_cancel counted

end Console

/-- The scheduler runs exactly when of the halts, resumptions and loads so far the latest is no halt, and cycles
are run only by ticks that find it running, one each.  So after a halt, until the next resumption or load,
nothing is run or drawn but by steps; a step runs one instruction, shows it once, and starts nothing.  Whatever
is done, the machine goes through the calls in the journal and through nothing else. -/
theorem halted_until_resumed {σ δ : Type} [Machine σ] [Beeper δ] (machine : σ) (frameRate : Float)
    (fetcher : Fetcher) (catalog : Catalog) (screen : Screen) (tone : ToneGate δ) (actions : List Action) :
    let c : Console σ δ := { session := .new machine frameRate fetcher catalog, screen, tone }
    let d := c.run actions
    let halted := d.act (.event .halt)
    let stepped := d.act (.event .step)
    (d.session.scheduler.running = true ↔ ∃ earlier happening later,
      c.history actions = earlier ++ happening :: later ∧
        (happening = .resumed ∨ ∃ index, happening = .loaded index) ∧
        ∀ other ∈ later, other.switch? = none) ∧
    (∀ action, d.session.rig.Obeys (d.callsOf action) (d.act action).session.rig) ∧
    (∀ action, (d.act action).session.rig.cycles = d.session.rig.cycles ∨
      ∃ now, action = .tick now ∧ (d.tick now).2 = .executed ∧ d.pollLoad.session.scheduler.running = true ∧
        (d.act action).session.rig.cycles = d.session.rig.cycles + 1 ∧
        (d.act action).session.rig.machine = (Machine.runCycle d.pollLoad.session.rig.machine).1) ∧
    (∀ during,
      (∀ happening ∈ halted.history during, happening ≠ .resumed ∧ ∀ index, happening ≠ .loaded index) →
      let e := halted.run during
      let drawn := frames (halted.history during)
      e.session.scheduler.running = false ∧
      e.session.rig.cycles = d.session.rig.cycles ∧
      (∃ asked, d.session.rig.Obeys asked e.session.rig ∧ .cycle ∉ asked ∧
        asked.count .opCode = during.countP Action.isStep) ∧
      e.session.scheduler.cycles = d.session.scheduler.cycles ∧
      e.session.rig.journal.refreshes = d.session.rig.journal.refreshes + during.countP Action.isStep ∧
      e.screen = d.screen.drawAll drawn ∧ drawn.length = during.countP Action.isStep) ∧
    d.session.rig.Obeys [.opCode] stepped.session.rig ∧
    stepped.session.rig.machine = (Machine.runOpCode d.session.rig.machine).1 ∧
    stepped.session.rig.journal.refreshes = d.session.rig.journal.refreshes + 1 ∧
    stepped.screen = (d.screen.draw (Machine.contents stepped.session.rig.machine)).1 ∧
    stepped.session.scheduler = { d.session.scheduler with steps := d.session.scheduler.steps + 1 } := by
  intro c d halted stepped
  refine ⟨?_, d.obeys_act, d.cycles_act, ?_, d.obeys_step, d.step_alike.machine,
    (d.shows_act (.event .step)).refreshes, (d.shows_act (.event .step)).screen_eq, d.step_alike.scheduler⟩
  · rw [(c.switched_run actions).running]
    simp only [← Happening.switch?_eq_true_iff]
    exact Happening.runningAfter_false_iff
  · intro during untouched e drawn
    have stays : ∀ happening ∈ halted.history during, happening.switch? ≠ some true := by
      intro happening among starts
      rcases Happening.switch?_eq_true_iff.mp starts with resumed | ⟨index, loaded⟩
      · exact (untouched happening among).1 resumed
      · exact (untouched happening among).2 index loaded
    have stopped : halted.session.scheduler.running = false := (d.switched_act (.event .halt)).running
    have ran : runs (d.history (.event .halt :: during)) = List.replicate (during.countP Action.isStep) .opCode :=
      Console.runs_of_halted stopped stays
    have noCycle : (runs (d.history (.event .halt :: during))).count .cycle = 0 := by
      rw [ran, List.count_eq_zero]
      simp
    obtain ⟨asked, obeys, runCalls⟩ := d.exists_obeys_run (.event .halt :: during)
    have noneAsked : .cycle ∉ asked := by
      rw [← List.count_eq_zero, runCalls .cycle rfl, noCycle]
    have opCodes : asked.count .opCode = during.countP Action.isStep := by
      rw [runCalls .opCode rfl, ran, List.count_replicate_self]
    -- The run from the halt on is one of the console that was halted.
    have cycles := d.count_run (.event .halt :: during) (rfl : Call.cycle.isRun = true)
    have counted := (d.switched_run (.event .halt :: during)).cycles
    have shown := d.refreshes_run (.event .halt :: during)
    rw [noCycle] at cycles counted
    rw [ran, List.length_replicate] at shown
    have frameCount : drawn.length = (runs (d.history (.event .halt :: during))).length := by
      simp only [drawn, frames, runs, List.length_map]
      rfl
    refine ⟨?_, cycles, ⟨asked, obeys, noneAsked, opCodes⟩, counted, shown, d.screen_run (.event .halt :: during), ?_⟩
    · rw [(halted.switched_run during).running, stopped]
      exact Happening.runningAfter_of_none stays
    · rw [frameCount, ran, List.length_replicate]

end Chip8Console
