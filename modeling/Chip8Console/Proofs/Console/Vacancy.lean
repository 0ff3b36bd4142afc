import Chip8Console.Machine.Puppet
import Chip8Console.Proofs.Console.Run

/-! # Running a machine without a program

A change of program resets the machine, and leaves the scheduler as it is.  If that is running, the ticks
that come before the image go on running the machine, and so do those that come after a failure.

* `ShowsVacancy`: the invariant.  The session shows at any time whether the machine holds a program.
* `runs_vacant_iff`: which ticks run a machine without one.
-/

namespace Chip8Console

/-- The splits of a list with one more element at its end. -/
theorem exists_split_concat {α : Type} {P : List α → List α → Prop} (xs : List α) (last x : α) :
    (∃ before after, xs ++ [last] = before ++ x :: after ∧ P before after) ↔
      (∃ before after, xs = before ++ x :: after ∧ P before (after ++ [last])) ∨
        last = x ∧ P xs [] := by
  constructor
  · rintro ⟨before, after, split, holds⟩
    -- The list is split at its last element, or at one of `xs`.
    rcases List.eq_nil_or_concat after with rfl | ⟨rest, y, rfl⟩
    · obtain ⟨rfl, same⟩ := List.append_inj' split rfl
      exact .inr ⟨List.singleton_inj.mp same, holds⟩
    · rw [List.concat_eq_append, ← List.cons_append, ← List.append_assoc] at split
      obtain ⟨earlier, same⟩ := List.append_inj' split rfl
      obtain rfl := List.singleton_inj.mp same
      exact .inl ⟨before, rest, earlier, by rwa [List.concat_eq_append] at holds⟩
  · rintro (⟨before, after, rfl, holds⟩ | ⟨rfl, holds⟩)
    · exact ⟨before, after ++ [last], by simp, holds⟩
    · exact ⟨xs, [], rfl, holds⟩

/-! ## Calls on a machine without a program -/

namespace Call

/-- The last reset has not been followed by an image. -/
def Vacant (calls : List Call) : Prop :=
  ∃ before after, calls = before ++ .reset :: after ∧ ∀ bytes, .load bytes ∉ after

/-- A cycle is run after a reset and before the next image. -/
def RunsVacant (calls : List Call) : Prop :=
  ∃ before after, calls = before ++ .cycle :: after ∧ Vacant before

theorem not_vacant_nil : ¬ Vacant [] := by
  rintro ⟨before, after, split, -⟩
  simp at split

theorem not_runsVacant_nil : ¬ RunsVacant [] := by
  rintro ⟨before, after, split, -⟩
  simp at split

theorem vacant_concat (calls : List Call) (call : Call) :
    Vacant (calls ++ [call]) ↔ (Vacant calls ∧ ∀ bytes, call ≠ .load bytes) ∨ call = .reset := by
  have split := exists_split_concat (P := fun _ after => ∀ bytes, Call.load bytes ∉ after) calls call .reset
  simp only [List.mem_append, List.mem_singleton, not_or, List.not_mem_nil, not_false_eq_true,
    implies_true, and_true] at split
  rw [Vacant, split, Vacant]
  constructor
  · rintro (⟨before, after, rfl, none⟩ | reset)
    · exact .inl ⟨⟨before, after, rfl, fun bytes => (none bytes).1⟩, fun bytes => (none bytes).2 ∘ .symm⟩
    · exact .inr reset
  · rintro (⟨⟨before, after, rfl, none⟩, other⟩ | reset)
    · exact .inl ⟨before, after, rfl, fun bytes => ⟨none bytes, other bytes ∘ .symm⟩⟩
    · exact .inr reset

theorem runsVacant_concat (calls : List Call) (call : Call) :
    RunsVacant (calls ++ [call]) ↔ RunsVacant calls ∨ call = .cycle ∧ Vacant calls :=
  exists_split_concat (P := fun before _ => Vacant before) calls call .cycle

theorem vacant_append {calls more : List Call} (noReset : .reset ∉ more)
    (noLoad : ∀ bytes, .load bytes ∉ more) : Vacant (calls ++ more) ↔ Vacant calls := by
  induction more using List.reverseRecOn with
  | nil => rw [List.append_nil]
  | append_singleton more call ih =>
    simp only [List.mem_append, List.mem_singleton, not_or] at noReset noLoad
    rw [← List.append_assoc, vacant_concat, ih noReset.1 fun bytes => (noLoad bytes).1]
    constructor
    · rintro (⟨vacant, -⟩ | rfl)
      · exact vacant
      · exact absurd rfl noReset.2
    · exact fun vacant => .inl ⟨vacant, fun bytes => (noLoad bytes).2 ∘ .symm⟩

theorem runsVacant_append {calls more : List Call} (noCycle : .cycle ∉ more) :
    RunsVacant (calls ++ more) ↔ RunsVacant calls := by
  induction more using List.reverseRecOn with
  | nil => rw [List.append_nil]
  | append_singleton more call ih =>
    simp only [List.mem_append, List.mem_singleton, not_or] at noCycle
    rw [← List.append_assoc, runsVacant_concat, ih noCycle.1]
    constructor
    · rintro (ran | ⟨rfl, -⟩)
      · exact ran
      · exact absurd rfl noCycle.2
    · exact .inl

/-- A call that has to do neither with programs nor with frames. -/
inductive Incidental : Call → Prop where
  | opCode : Incidental .opCode
  | press (line : UInt8) : Incidental (.press line)
  | release (line : UInt8) : Incidental (.release line)

end Call

/-! ## What the session shows -/

@[simp] theorem Panel.error_updateDebug (p : Panel) (registers : Registers) :
    (p.updateDebug registers).error = p.error := by
  unfold updateDebug
  split <;> rfl

namespace Session

variable {σ : Type} {s t : Session σ}

/-- The next program is on its way, or the last one did not come. -/
def Vacant (s : Session σ) : Prop :=
  s.loader.isLoading ∨ s.panel.error.isSome

/-- The session shows whether the machine holds a program. -/
structure ShowsVacancy (s : Session σ) : Prop where
  loading : s.loader.pending.isSome → s.loader.isLoading
  cleared : s.loader.isLoading → s.panel.error = none
  vacant_iff : Call.Vacant s.rig.journal.calls ↔ s.Vacant

/-- Between two sessions nothing has been done about programs, and no frame was executed. -/
structure Bystands (s t : Session σ) : Prop where
  loader : t.loader = s.loader
  error : t.panel.error = s.panel.error
  calls : ∃ more, t.rig.journal.calls = s.rig.journal.calls ++ more ∧ ∀ call ∈ more, call.Incidental

theorem Alike.bystands (alike : t.Alike s) : s.Bystands t :=
  ⟨alike.loader, by rw [alike.panel], [], by rw [alike.calls, List.append_nil], by simp⟩

theorem Bystands.trans {u : Session σ} (first : s.Bystands t) (second : t.Bystands u) :
    s.Bystands u := by
  obtain ⟨earlier, calls, incidental⟩ := first.calls
  obtain ⟨later, calls', incidental'⟩ := second.calls
  refine ⟨second.loader.trans first.loader, second.error.trans first.error, earlier ++ later, ?_, ?_⟩
  · rw [calls', calls, List.append_assoc]
  · intro call among
    exact (List.mem_append.mp among).elim (incidental call) (incidental' call)

theorem Alike.bystands_of {u : Session σ} (alike : u.Alike t) (b : s.Bystands t) : s.Bystands u :=
  b.trans alike.bystands

theorem Bystands.vacant_iff (b : s.Bystands t) : t.Vacant ↔ s.Vacant := by
  rw [Vacant, Vacant, b.loader, b.error]

theorem Bystands.callVacant_iff (b : s.Bystands t) :
    Call.Vacant t.rig.journal.calls ↔ Call.Vacant s.rig.journal.calls := by
  obtain ⟨more, calls, incidental⟩ := b.calls
  rw [calls]
  exact Call.vacant_append (fun reset => nomatch incidental _ reset)
    fun bytes load => nomatch incidental _ load

theorem Bystands.runsVacant_iff (b : s.Bystands t) :
    Call.RunsVacant t.rig.journal.calls ↔ Call.RunsVacant s.rig.journal.calls := by
  obtain ⟨more, calls, incidental⟩ := b.calls
  rw [calls]
  exact Call.runsVacant_append fun cycle => nomatch incidental _ cycle

theorem ShowsVacancy.bystand (shows : s.ShowsVacancy) (b : s.Bystands t) : t.ShowsVacancy where
  loading := by rw [b.loader]; exact shows.loading
  cleared := by rw [b.loader, b.error]; exact shows.cleared
  vacant_iff := by rw [b.callVacant_iff, b.vacant_iff]; exact shows.vacant_iff

variable [Machine σ]

theorem ShowsVacancy.select (shows : s.ShowsVacancy) (index : Nat) :
    (s.select index).1.ShowsVacancy ∧
      (Call.RunsVacant (s.select index).1.rig.journal.calls ↔
        Call.RunsVacant s.rig.journal.calls) := by
  unfold Session.select
  split
  · have alike : Alike { s with rig := s.rig.note (.loadDropped index) } s :=
      .of_rig rfl rfl (Rig.deeds_note _ _)
    have b := alike.bystands
    exact ⟨shows.bystand b, b.runsVacant_iff⟩
  cases s.loader.catalog.get? index with
  | none => exact ⟨shows, .rfl⟩
  | some program =>
    have calls : (s.send index program).rig.journal.calls = s.rig.journal.calls ++ [.reset] :=
      calls_send s index program
    refine ⟨⟨fun _ => rfl, fun _ => rfl, ?_⟩, ?_⟩
    · rw [calls, Call.vacant_concat]
      exact iff_of_true (.inr rfl) (.inl rfl)
    · rw [calls]
      exact Call.runsVacant_append (by simp)

theorem ShowsVacancy.poll (shows : s.ShowsVacancy) :
    s.poll.1.ShowsVacancy ∧
      (Call.RunsVacant s.poll.1.rig.journal.calls ↔ Call.RunsVacant s.rig.journal.calls) := by
  unfold Session.poll
  split
  · exact ⟨shows, .rfl⟩
  rename_i ticket pending
  have loading : s.loader.isLoading := shows.loading (by rw [pending]; rfl)
  split
  · exact ⟨shows, .rfl⟩
  · rename_i bytes _
    have calls : ((s.close ticket).finish s.loader.program bytes).rig.journal.calls =
        s.rig.journal.calls ++ [.load bytes] ++ Rig.allLines.map .release := by
      rw [List.append_assoc]
      exact calls_finish _ _ _
    -- The error was cleared when the program was sent for.
    have error : ((s.close ticket).finish s.loader.program bytes).panel.error = none :=
      shows.cleared loading
    refine ⟨⟨nofun, fun _ => error, ?_⟩, ?_⟩
    · rw [calls, Call.vacant_append (by simp) (by simp), Call.vacant_concat]
      refine iff_of_false ?_ ?_
      · rintro (⟨-, other⟩ | reset)
        · exact other bytes rfl
        · cases reset
      · rintro (loading' | failed)
        · cases loading'
        · rw [error] at failed
          cases failed
    · rw [calls, List.append_assoc]
      exact Call.runsVacant_append (by simp)
  · rename_i failure _
    have calls : ((s.close ticket).fail failure).rig.journal.calls = s.rig.journal.calls := calls_fail _ _
    -- The machine was empty before, and stays so; now it is the error that shows it.
    refine ⟨⟨nofun, nofun, ?_⟩, by rw [calls]⟩
    rw [calls, shows.vacant_iff]
    exact iff_of_true (.inl loading) (.inr rfl)

theorem bystands_press (s : Session σ) (line : UInt8) :
    s.Bystands { s with rig := s.rig.press line } :=
  ⟨rfl, rfl, [.press line], Journal.calls_of_deeds (Rig.deeds_press s.rig line),
    by simpa using .press line⟩

theorem bystands_release (s : Session σ) (line : UInt8) :
    s.Bystands { s with rig := s.rig.release line } :=
  ⟨rfl, rfl, [.release line], Journal.calls_of_deeds (Rig.deeds_release s.rig line),
    by simpa using .release line⟩

theorem bystands_edge (s : Session σ) (edge : KeyEdge) :
    s.Bystands { s with rig := (s.router.edge edge s.rig).1 } := by
  rw [Router.edge_eq]
  cases edge with
  | down key =>
    dsimp only
    cases s.router.lookup key with
    | none => exact (Alike.refl s).bystands
    | some line => exact bystands_press s line.number
  | up key =>
    dsimp only
    cases s.router.lookup key with
    | none => exact (Alike.refl s).bystands
    | some line => exact bystands_release s line.number

end Session

/-! ## What the console runs -/

namespace Console

variable {σ δ : Type} [Machine σ] [Beeper δ]

/-- A tick at this time finds a frame due and the scheduler running, but no program in the machine. -/
def RunsVacantAt (c : Console σ δ) (now : Float) : Prop :=
  let s := c.pollLoad.session
  s.Vacant ∧ s.scheduler.running ∧ (s.scheduler.pacer.advance now).2

open Session (ShowsVacancy Bystands)

theorem bystands_event (c : Console σ δ) (event : HostEvent)
    (noChange : event ≠ .nextProgram ∧ event ≠ .prevProgram) :
    c.session.Bystands (c.handle event).1.session := by
  cases event with
  | key edge => exact Session.bystands_edge c.session edge
  | halt => exact (halt_alike c).bystands_of ⟨rfl, rfl, [], (List.append_nil _).symm, by simp⟩
  | resume => exact (resume_alike c).bystands_of ⟨rfl, rfl, [], (List.append_nil _).symm, by simp⟩
  | step =>
    exact (step_alike c).bystands_of ⟨rfl, Panel.error_updateDebug _ _, [.opCode],
      Journal.calls_of_deeds (Rig.deeds_runOpCode c.session.rig), by simpa using .opCode⟩
  | nextProgram => exact absurd rfl noChange.1
  | prevProgram => exact absurd rfl noChange.2
  | toggleDebug =>
    exact ⟨rfl, Panel.error_updateDebug _ _, [], (List.append_nil _).symm, by simp⟩
  | quit => exact (Session.Alike.refl _).bystands

theorem showsVacancy_tick {c : Console σ δ} (shows : c.session.ShowsVacancy) (now : Float) :
    (c.tick now).1.session.ShowsVacancy ∧
      (Call.RunsVacant (c.tick now).1.session.rig.journal.calls ↔
        Call.RunsVacant c.session.rig.journal.calls ∨ c.RunsVacantAt now) := by
  obtain ⟨polled, ran⟩ := shows.poll
  have b := (pollLoad_alike c).bystands
  have polled := polled.bystand b
  rw [← b.runsVacant_iff] at ran
  rw [← ran, RunsVacantAt]
  rcases c.tick_cases now with ⟨idle, -, left⟩ | ⟨due, -, left⟩
  · -- No frame is executed, and so the right side has nothing to add either.
    have b' : c.pollLoad.session.Bystands (c.tick now).1.session :=
      left.bystands_of ⟨rfl, rfl, [], (List.append_nil _).symm, by simp⟩
    refine ⟨polled.bystand b', ?_⟩
    rw [b'.runsVacant_iff, iff_self_or]
    rintro ⟨-, running, due⟩
    simp [running, due] at idle
  · -- The cycle counts against the run if the machine was empty when it came.
    have calls : (c.tick now).1.session.rig.journal.calls =
        c.pollLoad.session.rig.journal.calls ++ [.cycle] := by
      rw [left.calls]
      exact Journal.calls_of_deeds (Rig.deeds_runCycle _)
    have error : (c.tick now).1.session.panel.error = c.pollLoad.session.panel.error := by
      rw [left.panel]
      exact Panel.error_updateDebug _ _
    rw [Bool.and_eq_true] at due
    refine ⟨⟨?_, ?_, ?_⟩, ?_⟩
    · rw [left.loader]
      exact polled.loading
    · rw [left.loader, error]
      exact polled.cleared
    · rw [calls, Call.vacant_concat, Session.Vacant, left.loader, error]
      simpa [Session.Vacant] using polled.vacant_iff
    · rw [calls, Call.runsVacant_concat, polled.vacant_iff]
      simp [due]

omit [Beeper δ] in
theorem showsVacancy_choose {c : Console σ δ} (shows : c.session.ShowsVacancy) {index : Nat}
    {d : Console σ δ} (alike : d.session.Alike (c.session.select index).1) :
    d.session.ShowsVacancy ∧
      (Call.RunsVacant d.session.rig.journal.calls ↔ Call.RunsVacant c.session.rig.journal.calls) := by
  obtain ⟨selected, ran⟩ := shows.select index
  exact ⟨selected.bystand alike.bystands, alike.bystands.runsVacant_iff.trans ran⟩

/-- Whatever is no tick runs nothing without a program. -/
theorem showsVacancy_act {c : Console σ δ} (shows : c.session.ShowsVacancy) {action : Action}
    (noTick : ∀ now, action ≠ .tick now) :
    (c.act action).session.ShowsVacancy ∧
      (Call.RunsVacant (c.act action).session.rig.journal.calls ↔
        Call.RunsVacant c.session.rig.journal.calls) := by
  have bystand (b : c.session.Bystands (c.act action).session) :
      (c.act action).session.ShowsVacancy ∧
        (Call.RunsVacant (c.act action).session.rig.journal.calls ↔
          Call.RunsVacant c.session.rig.journal.calls) :=
    ⟨shows.bystand b, b.runsVacant_iff⟩
  cases action with
  | boot => exact showsVacancy_choose shows (choose_alike c _)
  | tick now => exact absurd rfl (noTick now)
  | event event =>
    by_cases next : event = .nextProgram
    · subst next
      exact showsVacancy_choose shows (change_alike c _)
    by_cases prev : event = .prevProgram
    · subst prev
      exact showsVacancy_choose shows (change_alike c _)
    exact bystand (bystands_event c event ⟨next, prev⟩)
  | deliver ticket answer =>
    exact bystand ⟨rfl, rfl, [], by simp [act, Session.deliver], by simp⟩
  | abandon ticket =>
    exact bystand ⟨rfl, rfl, [], by simp [act, Session.abandon], by simp⟩

theorem showsVacancy_run {c : Console σ δ} (shows : c.session.ShowsVacancy) (actions : List Action) :
    (c.run actions).session.ShowsVacancy ∧
      (Call.RunsVacant (c.run actions).session.rig.journal.calls ↔
        Call.RunsVacant c.session.rig.journal.calls ∨
          ∃ now before after, actions = before ++ .tick now :: after ∧
            (c.run before).RunsVacantAt now) := by
  induction actions using List.reverseRecOn with
  | nil => exact ⟨shows, by simp⟩
  | append_singleton actions action ih =>
    obtain ⟨shows', ran⟩ := ih
    have splits (now : Float) := exists_split_concat
      (P := fun before _ => (c.run before).RunsVacantAt now) actions action (.tick now)
    simp only [splits, exists_or, ← or_assoc, ← ran, run_concat]
    by_cases tick : ∃ now, action = .tick now
    · obtain ⟨now, rfl⟩ := tick
      simpa [act] using showsVacancy_tick shows' now
    · have noTick : ∀ now, action ≠ .tick now := by simpa using tick
      simpa [noTick] using showsVacancy_act shows' noTick

end Console

/-- A run makes cycles run without a program exactly at the ticks that find the scheduler running and a
frame due while no program is in the machine. -/
theorem runs_vacant_iff {σ δ : Type} [Machine σ] [Beeper δ] (machine : σ) (frameRate : Float)
    (fetcher : Fetcher) (catalog : Catalog) (screen : Screen) (tone : ToneGate δ)
    (actions : List Action) :
    let c : Console σ δ := { session := .new machine frameRate fetcher catalog, screen, tone }
    Call.RunsVacant (c.run actions).session.rig.journal.calls ↔
      ∃ now before after, actions = before ++ .tick now :: after ∧ (c.run before).RunsVacantAt now := by
  intro c
  have shows : c.session.ShowsVacancy := by
    refine ⟨nofun, nofun, iff_of_false Call.not_vacant_nil ?_⟩
    rintro (loading | failed)
    · cases loading
    · cases failed
  rw [(Console.showsVacancy_run shows actions).2]
  exact or_iff_right Call.not_runsVacant_nil

instance : Beeper Empty where
  beep := nofun
  stop := nofun

/-- The second program has been asked for and is not there yet when the next frame is due. -/
theorem cycle_before_next_program :
    let c : Console Puppet Empty :=
      { session := .new {} 60 .promised .builtin
        screen := .new { resolution := {}, foreground := ⟨255, 255, 255⟩ }
        tone := .muted }
    Call.RunsVacant (c.run [.boot, .deliver 0 (.ok [0x12]), .tick 0, .event .nextProgram,
      .tick 20]).session.rig.journal.calls :=
  ⟨.reset :: .load [0x12] :: Rig.allLines.map .release ++ [.reset], [], by decide +kernel,
    .reset :: .load [0x12] :: Rig.allLines.map .release, [], rfl, by simp⟩

end Chip8Console
