import Chip8Console.Proofs.Console.Growth

/-! # What a run shows

The machine is shown whenever it was run, for a frame or for a single instruction, and at no other time.
`Shows` says what an action does about it: the machine is left alone and the screen with it, or it is run
once, shown straight away, and drawn as it is then.  From it follow the order of the entries in the journal
(`shownAlways_run`), how often each of them is there, and the screen (`screen_run`).
-/

namespace Chip8Console

/-! ## The order of the entries -/

/-- Whenever the machine is run, it is shown before anything else is done, and at no other time.  Notices
may come between. -/
inductive ShownAlways : List Entry → Prop
  | nil : ShownAlways []
  | quiet {entries : List Entry} {entry : Entry} (shown : ShownAlways entries) (quiet : entry.isQuiet) :
      ShownAlways (entries ++ [entry])
  | run {entries : List Entry} {call : Call} (shown : ShownAlways entries) (run : call.isRun)
      (notices : List Notice) :
      ShownAlways (entries ++ .call call :: (notices.map .notice ++ [.refresh]))

theorem ShownAlways.countP_isRefresh {entries : List Entry} (shown : ShownAlways entries) :
    entries.countP Entry.isRefresh = entries.countP Entry.isRun := by
  induction shown with
  | nil => rfl
  | @quiet entries entry _ quiet ih =>
    simp [ih, Entry.isQuiet_iff.mp quiet]
  | @run entries call _ run notices ih =>
    have silent : notices.countP (Entry.isRefresh ∘ .notice) = 0 ∧ notices.countP (Entry.isRun ∘ .notice) = 0 := by
      simp [List.countP_eq_zero]
    simp [ih, run, silent, List.countP_cons, List.countP_map]

theorem ShownAlways.quietly {j k : Journal} (shown : ShownAlways j.toList) (quietly : j.Quietly k) :
    ShownAlways k.toList := by
  obtain ⟨more, grown, quiet⟩ := quietly
  rw [grown]
  clear grown
  -- Entries are added at the end, so that is where they are taken off.
  induction more using List.reverseRecOn with
  | nil => simpa using shown
  | append_singleton more entry ih =>
    rw [← List.append_assoc]
    exact .quiet (ih fun other among => quiet other (List.mem_append_left _ among))
      (quiet entry List.mem_concat_self)

theorem ShownAlways.shown {j k : Journal} {call : Call} (always : ShownAlways j.toList) (run : call.isRun)
    (shown : j.Shown call k) : ShownAlways k.toList := by
  obtain ⟨notices, grown⟩ := shown
  rw [grown]
  exact .run always run notices

/-! ## What an action shows -/

namespace Happening

variable {σ : Type}

/-- The call that has run the machine, and the machine right after it. -/
def run? : Happening σ → Option (Call × σ)
  | .ran machine => some (.cycle, machine)
  | .stepped machine => some (.opCode, machine)
  | _ => none

theorem isRun_of_run? {happening : Happening σ} {call : Call} {machine : σ}
    (ran : happening.run? = some (call, machine)) : call.isRun := by
  cases happening with
  | ran | stepped =>
    obtain ⟨rfl, rfl⟩ := Prod.mk.inj (Option.some.inj ran)
    rfl
  | sent | loaded | failed | edge | halted | resumed => cases ran

end Happening

theorem Session.filterMap_run?_arrival {σ : Type} [Machine σ] (s : Session σ) :
    s.arrival.filterMap Happening.run? = [] :=
  s.filterMap_arrival (fun _ => rfl) fun _ _ => rfl

theorem Session.filterMap_run?_sent {σ : Type} (answer : Except Failure Selection) :
    (sent answer : List (Happening σ)).filterMap Happening.run? = [] :=
  filterMap_sent (fun _ => rfl) answer

namespace Console

variable {σ δ : Type} [Machine σ] {c d e : Console σ δ} {happenings : List (Happening σ)}

/-- Nothing was done about the machine's frames, or it was run once, shown, and drawn as it was then. -/
inductive Shows (c : Console σ δ) (happenings : List (Happening σ)) (e : Console σ δ) : Prop
  | nothing (none : happenings.filterMap Happening.run? = [])
      (quietly : c.session.rig.journal.Quietly e.session.rig.journal) (screen : e.screen = c.screen)
  | run {j k : Journal} {call : Call} {machine : σ} (one : happenings.filterMap Happening.run? = [(call, machine)])
      (before : c.session.rig.journal.Quietly j) (shown : j.Shown call k)
      (after : k.Quietly e.session.rig.journal)
      (screen : e.screen = (c.screen.draw (Machine.contents machine)).1)

theorem Shows.quietly (shows : c.Shows happenings d)
    (quietly : d.session.rig.journal.Quietly e.session.rig.journal) (same : e.screen = d.screen) :
    c.Shows happenings e := by
  cases shows with
  | nothing none before screen => exact .nothing none (before.trans quietly) (same.trans screen)
  | run one before shown after screen => exact .run one before shown (after.trans quietly) (same.trans screen)

variable [Beeper δ]

omit [Machine σ] in
theorem quietly_updateTone (c : Console σ δ) (active : Bool) :
    c.session.rig.journal.Quietly (c.updateTone active).session.rig.journal :=
  ToneGate.quietly_update _ _ _

theorem shows_choose (c : Console σ δ) (ask : Session σ → Session σ × Except Failure Selection)
    (quietly : c.session.rig.journal.Quietly (ask c.session).1.rig.journal) :
    c.Shows (Session.sent (ask c.session).2) (c.choose ask).1 := by
  have asked : c.Shows (Session.sent (ask c.session).2) (c.within ask).1 :=
    .nothing (Session.filterMap_run?_sent _) quietly rfl
  rcases c.choose_cases ask with ⟨-, chosen⟩ | ⟨index, -, chosen⟩
  · rw [chosen]
    exact asked
  · rw [chosen]
    exact asked.quietly (quietly_updateTone _ _) rfl

theorem shows_change (c : Console σ δ) (ask : Session σ → Session σ × Except Failure Selection)
    (quietly : c.session.rig.journal.Quietly (ask c.session).1.rig.journal) :
    c.Shows (Session.sent (ask c.session).2) (c.change ask) := by
  have chosen := c.shows_choose ask quietly
  rcases c.change_cases ask with changed | ⟨notice, changed⟩
  · rw [changed]
    exact chosen
  · rw [changed]
    exact chosen.quietly (Rig.silently_note _ _).quietly rfl

theorem shows_tick (c : Console σ δ) (now : Float) : c.Shows (c.happenings (.tick now)) (c.tick now).1 := by
  have polled := c.silently_pollLoad.quietly
  obtain ⟨screen, -⟩ := c.pollLoad_spares
  simp only [happenings]
  -- The poll runs nothing, and neither does what is told of it.
  rcases c.tick_eq now with ⟨-, ticked⟩ | ⟨-, ticked⟩
  · rw [ticked]
    refine .nothing ?_ polled screen
    cases (c.pollLoad.session.scheduler.pacer.advance now).2 <;> simp [Session.filterMap_run?_arrival]
  · let d := c.pollLoad.framed (c.pollLoad.session.scheduler.pacer.advance now).1
    obtain ⟨j, shown, after⟩ := c.pollLoad.shown_framed (c.pollLoad.session.scheduler.pacer.advance now).1
    have one : (c.session.arrival ++ [Happening.ran d.session.rig.machine]).filterMap Happening.run? =
        [(.cycle, d.session.rig.machine)] := by
      rw [List.filterMap_append, Session.filterMap_run?_arrival]
      rfl
    rw [ticked]
    refine .run one polled shown (after.quietly.trans (quietly_updateTone d d.soundActive)) ?_
    rw [← screen]
    rfl

theorem shows_step (c : Console σ δ) : c.Shows [.stepped c.step.session.rig.machine] c.step := by
  obtain ⟨j, shown, after⟩ := c.shown_instructed
  exact .run rfl (.refl _) shown (after.quietly.trans (quietly_updateTone c.instructed _)) rfl

theorem shows_act (c : Console σ δ) (action : Action) : c.Shows (c.happenings action) (c.act action) := by
  cases action with
  | boot =>
    simp only [Console.happenings, boot, choose_snd]
    exact c.shows_choose (·.select 0) (Session.silently_select _ _).quietly
  | tick now => exact c.shows_tick now
  | event event =>
    cases event with
    | key edge => exact .nothing rfl (Router.silently_edge _ _ _).quietly rfl
    | halt =>
      have stopped : c.session.rig.journal.Quietly c.session.stop.rig.journal :=
        (Rig.silently_noteAll _ _).quietly
      exact .nothing rfl (stopped.trans (quietly_updateTone (c.within fun s => (s.stop, ())).1 false)) rfl
    | resume => exact .nothing rfl (Rig.silently_noteAll _ _).quietly rfl
    | step => exact c.shows_step
    | nextProgram => exact c.shows_change Session.selectNext (Session.silently_select _ _).quietly
    | prevProgram => exact c.shows_change Session.selectPrev (Session.silently_select _ _).quietly
    | toggleDebug => exact .nothing rfl (.refl _) rfl
    | quit => exact .nothing rfl (.refl _) rfl
  | deliver ticket answer =>
    have same : (c.act (.deliver ticket answer)).session.rig.journal = c.session.rig.journal :=
      Rig.journal_deliver _ _ _
    exact .nothing rfl (same ▸ .refl _) rfl
  | abandon ticket =>
    have same : (c.act (.abandon ticket)).session.rig.journal = c.session.rig.journal :=
      Rig.journal_abandon _ _
    exact .nothing rfl (same ▸ .refl _) rfl

end Console

/-! ## What a run shows -/

/-- Draws one frame after the other. -/
def Screen.drawAll (s : Screen) (frames : List (List UInt8)) : Screen :=
  frames.foldl (fun s pixels => (s.draw pixels).1) s

@[simp] theorem Screen.drawAll_concat (s : Screen) (frames : List (List UInt8)) (pixels : List UInt8) :
    s.drawAll (frames ++ [pixels]) = ((s.drawAll frames).draw pixels).1 := by
  simp [drawAll]

namespace Happening

variable {σ : Type}

/-- The calls that have run the machine. -/
def runs (history : List (Happening σ)) : List Call :=
  (history.filterMap run?).map (·.1)

/-- What the machine has had to show right after each of them. -/
def frames [Machine σ] (history : List (Happening σ)) : List (List UInt8) :=
  (history.filterMap run?).map (Machine.contents ·.2)

end Happening

open Happening (runs frames)

namespace Console

variable {σ δ : Type} [Machine σ] {c d : Console σ δ} {happenings : List (Happening σ)}

theorem Shows.count (shows : c.Shows happenings d) {call : Call} (run : call.isRun) :
    d.session.rig.count call = c.session.rig.count call + (runs happenings).count call := by
  cases shows with
  | nothing none quietly => simp [Rig.count, runs, none, quietly.count run]
  | run one before shown after =>
    simp [Rig.count, runs, one, after.count run, shown.calls, before.count run]

theorem Shows.refreshes (shows : c.Shows happenings d) :
    d.session.rig.journal.refreshes = c.session.rig.journal.refreshes + (runs happenings).length := by
  cases shows with
  | nothing none quietly => simp [runs, none, quietly.refreshes]
  | run one before shown after => simp [runs, one, after.refreshes, shown.refreshes, before.refreshes]

theorem Shows.screen_eq (shows : c.Shows happenings d) :
    d.screen = c.screen.drawAll (frames happenings) := by
  cases shows with
  | nothing none _ screen => simp [frames, none, screen, Screen.drawAll]
  | run one _ _ _ screen => simp [frames, one, screen, Screen.drawAll]

theorem Shows.shownAlways (shows : c.Shows happenings d) (always : ShownAlways c.session.rig.journal.toList) :
    ShownAlways d.session.rig.journal.toList := by
  cases shows with
  | nothing _ quietly => exact always.quietly quietly
  | @run j k call machine one before shown after =>
    obtain ⟨happening, -, ran⟩ := List.mem_filterMap.mp (one ▸ List.mem_singleton_self (call, machine))
    exact ((always.quietly before).shown (Happening.isRun_of_run? ran) shown).quietly after

variable [Beeper δ]

/-- Only ticks and steps run the machine. -/
theorem runs_happenings (c : Console σ δ) (action : Action) :
    runs (c.happenings action) = match action with
      | .tick now => if (c.tick now).2 = .executed then [.cycle] else []
      | .event .step => [.opCode]
      | _ => [] := by
  cases action with
  | boot => simp [happenings, runs, Session.filterMap_run?_sent]
  | tick now =>
    simp only [happenings, runs, List.filterMap_append, Session.filterMap_run?_arrival]
    cases (c.tick now).2 <;> simp [Happening.run?]
  | event event =>
    cases event with
    | nextProgram | prevProgram => simp [happenings, runs, Session.filterMap_run?_sent]
    | key | halt | resume | step | toggleDebug | quit => rfl
  | deliver | abandon => rfl

theorem count_run (c : Console σ δ) (actions : List Action) {call : Call} (run : call.isRun) :
    (c.run actions).session.rig.count call =
      c.session.rig.count call + (runs (c.history actions)).count call := by
  refine run_induction_nil
    (P := fun past d => d.session.rig.count call = c.session.rig.count call + (runs past).count call)
    (by simp [runs]) (fun past d action counted => ?_) actions
  rw [(d.shows_act action).count run, counted]
  simp [runs, Nat.add_assoc]

theorem refreshes_run (c : Console σ δ) (actions : List Action) :
    (c.run actions).session.rig.journal.refreshes =
      c.session.rig.journal.refreshes + (runs (c.history actions)).length := by
  refine run_induction_nil
    (P := fun past d => d.session.rig.journal.refreshes = c.session.rig.journal.refreshes + (runs past).length)
    (by simp [runs]) (fun past d action counted => ?_) actions
  rw [(d.shows_act action).refreshes, counted]
  simp [runs, Nat.add_assoc]

theorem shownAlways_run (always : ShownAlways c.session.rig.journal.toList) (actions : List Action) :
    ShownAlways (c.run actions).session.rig.journal.toList :=
  run_induction_nil (P := fun _ d => ShownAlways d.session.rig.journal.toList) always
    (fun _ d action always => (d.shows_act action).shownAlways always) actions

/-- The screen is what the frames of the run have made of it, one drawn onto the other. -/
theorem screen_run (c : Console σ δ) (actions : List Action) :
    (c.run actions).screen = c.screen.drawAll (frames (c.history actions)) := by
  refine run_induction_nil (P := fun past d => d.screen = c.screen.drawAll (frames past)) rfl
    (fun past d action drawn => ?_) actions
  rw [(d.shows_act action).screen_eq, drawn]
  simp [frames, Screen.drawAll]

end Console

end Chip8Console
