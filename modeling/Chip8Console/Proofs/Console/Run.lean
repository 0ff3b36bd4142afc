import Chip8Console.Console
import Chip8Console.Proofs.Deeds
import Chip8Console.Proofs.Scheduling.Run

/-! # Runs of a console

An `Action` is anything that can happen to a console: what its host asks of it, and what goes on at the
other end of the fetches.  A run takes any actions in any order.

What the console adds to its parts is mostly commentary.  `Session.Alike` leaves it out, and there is one
lemma for each operation that says which session it leaves, up to commentary.
-/

namespace Chip8Console

/-- A beeper that always works. -/
instance : Beeper Unit where
  beep _ := ((), none)
  stop _ := ((), none)

inductive Action where
  | boot
  | tick (now : Float)
  | event (event : HostEvent)
  | deliver (ticket : Nat) (answer : Fetched)
  | abandon (ticket : Nat)

/-! ## Sessions up to commentary -/

namespace Session

variable {σ : Type}

/-- Two sessions are the same, and have done the same. -/
structure Alike (s t : Session σ) : Prop where
  machine : s.rig.machine = t.rig.machine
  fetches : s.rig.fetches = t.rig.fetches
  deeds : s.rig.journal.deeds = t.rig.journal.deeds
  scheduler : s.scheduler = t.scheduler
  router : s.router = t.router
  panel : s.panel = t.panel
  loader : s.loader = t.loader

theorem Alike.refl (s : Session σ) : s.Alike s :=
  ⟨rfl, rfl, rfl, rfl, rfl, rfl, rfl⟩

theorem Alike.trans {s t u : Session σ} (first : s.Alike t) (second : t.Alike u) : s.Alike u :=
  ⟨first.machine.trans second.machine, first.fetches.trans second.fetches,
    first.deeds.trans second.deeds, first.scheduler.trans second.scheduler,
    first.router.trans second.router, first.panel.trans second.panel,
    first.loader.trans second.loader⟩

theorem Alike.of_rig {s : Session σ} {rig : Rig σ} (machine : rig.machine = s.rig.machine)
    (fetches : rig.fetches = s.rig.fetches) (deeds : rig.journal.deeds = s.rig.journal.deeds) :
    Alike { s with rig } s :=
  ⟨machine, fetches, deeds, rfl, rfl, rfl, rfl⟩

theorem Alike.calls {s t : Session σ} (alike : s.Alike t) :
    s.rig.journal.calls = t.rig.journal.calls := by
  rw [Journal.calls_eq, Journal.calls_eq, alike.deeds]

end Session

/-! ## The parts of the console -/

@[simp] theorem Scheduler.deeds_frame {τ σ ν : Type} [Machine σ] [View ν σ] (s : Scheduler τ)
    (rig : Rig σ) (view : ν) :
    (s.frame rig view).1.journal.deeds = rig.journal.deeds ++ [.call .cycle] := by
  simp [frame]

@[simp] theorem Scheduler.deeds_step {τ σ ν : Type} [Machine σ] [View ν σ] (s : Scheduler τ)
    (rig : Rig σ) (view : ν) :
    (s.step rig view).2.1.journal.deeds = rig.journal.deeds ++ [.call .opCode] := by
  simp [step]

/-- A mapped key moves the line that it is mapped to, and another one nothing. -/
theorem Router.edge_eq {σ : Type} [Machine σ] (r : Router) (edge : KeyEdge) (rig : Rig σ) :
    (r.edge edge rig).1 = match edge with
      | .down key => (r.lookup key).elim rig (rig.press ·.number)
      | .up key => (r.lookup key).elim rig (rig.release ·.number) := by
  cases edge with
  | down key => cases mapped : r.lookup key <;> simp [edge, keyDown, mapped]
  | up key => cases mapped : r.lookup key <;> simp [edge, keyUp, mapped]

namespace ToneGate

variable {δ : Type} [Beeper δ]

@[simp] theorem deeds_update (gate : ToneGate δ) (active : Bool) (journal : Journal) :
    (gate.update active journal).2.deeds = journal.deeds := by
  unfold update
  split
  · rfl
  · cases gate.device with
    | none => rfl
    | some device => simp [switch, Entry.deed?]

end ToneGate

namespace Console

variable {σ δ : Type}

/-! ## What the operations leave -/

@[simp] theorem session_within {α : Type} (c : Console σ δ) (f : Session σ → Session σ × α) :
    (c.within f).1.session = (f c.session).1 := rfl

theorem note_alike (c : Console σ δ) (notice : Notice) : (c.note notice).session.Alike c.session :=
  .of_rig rfl rfl (Rig.deeds_note _ _)

section Tone

variable [Beeper δ]

theorem updateTone_alike (c : Console σ δ) (active : Bool) :
    (c.updateTone active).session.Alike c.session :=
  .of_rig rfl rfl (ToneGate.deeds_update _ _ _)

/-- A program that is on its way has no tone yet. -/
theorem choose_cases (c : Console σ δ) (ask : Session σ → Session σ × Except Failure Selection) :
    ((∀ index, (ask c.session).2 ≠ .ok (.loading index)) ∧ c.choose ask = c.within ask) ∨
    ∃ index, (ask c.session).2 = .ok (.loading index) ∧
      c.choose ask = ((c.within ask).1.updateTone false, .ok (.loading index)) := by
  have answer : (c.within ask).2 = (ask c.session).2 := rfl
  unfold choose
  rw [← answer]
  generalize c.within ask = asked
  obtain ⟨d, _ | ⟨index⟩ | _⟩ := asked
  · exact .inl ⟨nofun, rfl⟩
  · exact .inr ⟨index, rfl, rfl⟩
  · exact .inl ⟨nofun, rfl⟩

theorem choose_alike (c : Console σ δ) (ask : Session σ → Session σ × Except Failure Selection) :
    (c.choose ask).1.session.Alike (ask c.session).1 := by
  rcases c.choose_cases ask with ⟨-, chosen⟩ | ⟨index, -, chosen⟩
  · rw [chosen]
    exact .refl _
  · rw [chosen]
    exact updateTone_alike _ false

theorem change_cases (c : Console σ δ) (ask : Session σ → Session σ × Except Failure Selection) :
    c.change ask = (c.choose ask).1 ∨ ∃ notice, c.change ask = (c.choose ask).1.note notice := by
  unfold change
  split <;> rename_i answered <;> rw [answered]
  · exact .inl rfl
  · exact .inr ⟨_, rfl⟩

theorem change_alike (c : Console σ δ) (ask : Session σ → Session σ × Except Failure Selection) :
    (c.change ask).session.Alike (ask c.session).1 := by
  rcases c.change_cases ask with changed | ⟨notice, changed⟩
  · rw [changed]
    exact choose_alike c ask
  · rw [changed]
    exact (note_alike _ _).trans (choose_alike c ask)

theorem halt_alike (c : Console σ δ) :
    c.halt.session.Alike
      { c.session with scheduler := { c.session.scheduler with running := false } } :=
  (updateTone_alike _ _).trans ⟨rfl, rfl, Rig.deeds_noteAll _ _, rfl, rfl, rfl, rfl⟩

end Tone

theorem resume_alike (c : Console σ δ) :
    c.resume.session.Alike
      { c.session with scheduler := { c.session.scheduler with running := true } } :=
  ⟨rfl, rfl, Rig.deeds_noteAll _ _, rfl, rfl, rfl, rfl⟩

variable [Machine σ]

theorem pollLoad_cases (c : Console σ δ) :
    c.pollLoad = (c.within Session.poll).1 ∨ ∃ notice, c.pollLoad = (c.within Session.poll).1.note notice := by
  unfold pollLoad
  split <;> rename_i polled <;> rw [polled]
  · exact .inr ⟨_, rfl⟩
  · exact .inl rfl

theorem pollLoad_spares (c : Console σ δ) : c.pollLoad.screen = c.screen ∧ c.pollLoad.tone = c.tone := by
  rcases c.pollLoad_cases with polled | ⟨notice, polled⟩
  all_goals
    rw [polled]
    exact ⟨rfl, rfl⟩

theorem pollLoad_alike (c : Console σ δ) : c.pollLoad.session.Alike c.session.poll.1 := by
  rcases c.pollLoad_cases with polled | ⟨notice, polled⟩
  · rw [polled]
    exact .refl _
  · rw [polled]
    exact note_alike _ _

variable [Beeper δ]

/-- A frame is executed and shown; the tone has yet to follow. -/
def framed (c : Console σ δ) (pacer : Pacer Float) : Console σ δ :=
  let shown := c.session.scheduler.frame c.session.rig (c.screen, c.session.panel)
  { c with
    session := { c.session with
      rig := shown.1
      scheduler := { c.session.scheduler with pacer, cycles := c.session.scheduler.cycles + 1 }
      panel := shown.2.2 }
    screen := shown.2.1 }

/-- An instruction is executed and shown; the tone has yet to follow. -/
def instructed (c : Console σ δ) : Console σ δ :=
  let shown := c.session.scheduler.step c.session.rig (c.screen, c.session.panel)
  { c with
    session := { c.session with rig := shown.2.1, scheduler := shown.1, panel := shown.2.2.2 }
    screen := shown.2.2.1 }

/-- A tick polls first.  Only if a frame is executed does it go on to touch the machine. -/
theorem tick_eq (c : Console σ δ) (now : Float) :
    let d := c.pollLoad
    let asked := d.session.scheduler.pacer.advance now
    ((asked.2 && d.session.scheduler.running) = false ∧ c.tick now =
      ({ d with session := { d.session with scheduler := { d.session.scheduler with pacer := asked.1 } } },
        if asked.2 then .skipped else .waiting)) ∨
    ((asked.2 && d.session.scheduler.running) = true ∧ c.tick now =
      ((d.framed asked.1).updateTone (d.framed asked.1).soundActive, .executed)) := by
  unfold tick
  generalize c.pollLoad = d
  obtain ⟨⟨rig, scheduler, router, panel, loader⟩, screen, tone⟩ := d
  have ticked := scheduler.tick_cases now rig (screen, panel)
  dsimp only at ticked ⊢
  -- The case split is on what the pacer says, not on how it comes to say it.
  generalize scheduler.pacer.advance now = asked at ticked ⊢
  obtain ⟨pacer, due⟩ := asked
  rcases ticked with ⟨rfl, ticked⟩ | ⟨rfl, stopped, ticked⟩ | ⟨rfl, running, ticked⟩
  · rw [ticked]
    exact .inl ⟨rfl, rfl⟩
  · rw [ticked]
    exact .inl ⟨stopped, rfl⟩
  · rw [ticked]
    exact .inr ⟨running, rfl⟩

theorem step_eq (c : Console σ δ) : c.step = c.instructed.updateTone c.instructed.soundActive := rfl

theorem tick_cases (c : Console σ δ) (now : Float) :
    let s := c.pollLoad.session
    let asked := s.scheduler.pacer.advance now
    ((asked.2 && s.scheduler.running) = false ∧
      (c.tick now).2 = (if asked.2 then .skipped else .waiting) ∧
      (c.tick now).1.session.Alike { s with scheduler := { s.scheduler with pacer := asked.1 } }) ∨
    ((asked.2 && s.scheduler.running) = true ∧ (c.tick now).2 = .executed ∧
      (c.tick now).1.session.Alike
        { s with
          rig := s.rig.runCycle.1
          scheduler := { s.scheduler with pacer := asked.1, cycles := s.scheduler.cycles + 1 }
          panel := s.panel.updateDebug (Machine.registers s.rig.runCycle.1.machine) }) := by
  rcases c.tick_eq now with ⟨idle, ticked⟩ | ⟨due, ticked⟩
  · exact .inl ⟨idle, by rw [ticked], by rw [ticked]; exact .refl _⟩
  · refine .inr ⟨due, by rw [ticked], ?_⟩
    rw [ticked]
    refine (updateTone_alike _ _).trans ⟨rfl, rfl, ?_, rfl, rfl, rfl, rfl⟩
    simp [framed]

theorem step_alike (c : Console σ δ) :
    c.step.session.Alike
      { c.session with
        rig := c.session.rig.runOpCode.1
        scheduler := { c.session.scheduler with steps := c.session.scheduler.steps + 1 }
        panel :=
          c.session.panel.updateDebug (Machine.registers c.session.rig.runOpCode.1.machine) } := by
  rw [step_eq]
  refine (updateTone_alike _ _).trans ⟨rfl, rfl, ?_, rfl, rfl, rfl, rfl⟩
  simp [instructed]

/-! ## Runs -/

def act (c : Console σ δ) : Action → Console σ δ
  | .boot => c.boot.1
  | .tick now => (c.tick now).1
  | .event event => (c.handle event).1
  | .deliver ticket answer => (c.within (·.deliver ticket answer)).1
  | .abandon ticket => (c.within (·.abandon ticket)).1

/-- Takes one action after the other. -/
def run (c : Console σ δ) (actions : List Action) : Console σ δ :=
  actions.foldl act c

@[simp] theorem run_nil (c : Console σ δ) : c.run [] = c := rfl

theorem run_append (c : Console σ δ) (actions more : List Action) :
    c.run (actions ++ more) = (c.run actions).run more :=
  List.foldl_append

@[simp] theorem run_concat (c : Console σ δ) (actions : List Action) (action : Action) :
    c.run (actions ++ [action]) = (c.run actions).act action := by
  simp [run]

end Console

end Chip8Console
