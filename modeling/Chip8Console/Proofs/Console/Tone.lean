import Chip8Console.Proofs.Console.Growth

/-! # The tone of a run

The tone is on or off as the latest happening that concerns it has left it: a cycle or a step leaves what the
machine says, and a halt or a program that was sent for leaves silence.  `InTune` says that the gate is as
it should be and that the beeper was asked for just that; every action keeps it (`InTune.act`).
-/

namespace Chip8Console

/-! ## Calls on the beeper -/

namespace BeeperCall

/-- The beeper was asked to beep, and has not been asked to stop since. -/
def LeftOn (calls : List BeeperCall) : Prop :=
  .beep ∈ sinceLast (· = .stop) calls

theorem leftOn_concat (calls : List BeeperCall) (call : BeeperCall) :
    LeftOn (calls ++ [call]) ↔ call = .beep := by
  rw [LeftOn, sinceLast_concat]
  cases call <;> simp

theorem not_leftOn_iff {calls : List BeeperCall} :
    ¬ LeftOn calls ↔ ∀ before after, calls = before ++ .beep :: after → .stop ∈ after := by
  simp [LeftOn, mem_sinceLast]

end BeeperCall

namespace Journal

@[simp] theorem beeperCalls_add (j : Journal) (entry : Entry) :
    (j.add entry).beeperCalls = j.beeperCalls ++ entry.beeper?.toList := by
  cases entry <;> simp [beeperCalls, add, Entry.beeper?]

@[simp] theorem beeperCalls_noteAll (j : Journal) (notices : List Notice) :
    (j.noteAll notices).beeperCalls = j.beeperCalls :=
  (j.silently_noteAll notices).beeperCalls

end Journal

namespace Rig

variable {σ : Type}

def beeperCalls (rig : Rig σ) : List BeeperCall :=
  rig.journal.beeperCalls

theorem beeperCalls_note (rig : Rig σ) (notice : Notice) : (rig.note notice).beeperCalls = rig.beeperCalls :=
  (rig.silently_note notice).beeperCalls

end Rig

/-! ## What the tone is to be -/

namespace Happening

variable {σ : Type} [Machine σ]

/-- What a happening makes of the tone, if it concerns it. -/
def tone? : Happening σ → Option Bool
  | .sent _ | .halted => some false
  | .ran machine | .stepped machine => some (Machine.soundActive machine)
  | .loaded _ | .failed .. | .edge _ | .resumed => none

/-- The tone at the end of a history; at the beginning there is none. -/
def toneAfter (history : List (Happening σ)) : Bool :=
  (history.filterMap tone?).getLast?.getD false

variable {history more : List (Happening σ)}

theorem toneAfter_append_of_none (none : ∀ happening ∈ more, happening.tone? = Option.none) :
    toneAfter (history ++ more) = toneAfter history := by
  rw [toneAfter, List.filterMap_append, List.filterMap_eq_nil_iff.mpr none, List.append_nil, toneAfter]

theorem toneAfter_concat {happening : Happening σ} {tone : Bool} (concerns : happening.tone? = some tone) :
    toneAfter (history ++ [happening]) = tone := by
  simp [toneAfter, concerns]

end Happening

open Happening (toneAfter)

theorem Session.tone?_of_mem_arrival {σ : Type} [Machine σ] {s : Session σ} {happening : Happening σ}
    (among : happening ∈ s.arrival) : happening.tone? = none :=
  List.filterMap_eq_nil_iff.mp (s.filterMap_arrival (fun _ => rfl) fun _ _ => rfl) happening among

namespace Console

variable {σ δ : Type} {c d : Console σ δ} {active : Bool}

/-- Neither the gate nor the beeper was touched. -/
structure SparesTone (c d : Console σ δ) : Prop where
  tone : d.tone = c.tone
  beeperCalls : d.session.rig.beeperCalls = c.session.rig.beeperCalls

theorem SparesTone.rfl : c.SparesTone c :=
  ⟨Eq.refl _, Eq.refl _⟩

theorem SparesTone.of_silently (tone : d.tone = c.tone)
    (silently : c.session.rig.journal.Silently d.session.rig.journal) : c.SparesTone d :=
  ⟨tone, silently.beeperCalls⟩

theorem SparesTone.trans {e : Console σ δ} (first : c.SparesTone d) (second : d.SparesTone e) :
    c.SparesTone e :=
  ⟨second.tone.trans first.tone, second.beeperCalls.trans first.beeperCalls⟩

/-- The gate has let the tone through, and the beeper was asked for what it does. -/
structure InTune (active : Bool) (c : Console σ δ) : Prop where
  sounding : c.tone.sounding = active
  device : c.tone.device.isSome
  leftOn_iff : BeeperCall.LeftOn c.session.rig.beeperCalls ↔ active = true

theorem InTune.spare (i : InTune active c) (spares : c.SparesTone d) : InTune active d := by
  obtain ⟨tone, beeperCalls⟩ := spares
  exact ⟨by rw [tone]; exact i.sounding, by rw [tone]; exact i.device,
    by rw [beeperCalls]; exact i.leftOn_iff⟩

variable [Beeper δ]

/-- The beeper is called only if the tone changes. -/
theorem updateTone_sounding (c : Console σ δ) : c.updateTone c.tone.sounding = c := by
  simp [Console.updateTone, ToneGate.update]

theorem InTune.updateTone (i : InTune active c) (next : Bool) : InTune next (c.updateTone next) := by
  by_cases same : next = c.tone.sounding
  · subst same
    rw [updateTone_sounding]
    obtain ⟨rfl, device, leftOn_iff⟩ := i
    exact ⟨rfl, device, leftOn_iff⟩
  · obtain ⟨session, screen, ⟨device, sounding⟩⟩ := c
    obtain ⟨device, rfl⟩ := Option.isSome_iff_exists.mp i.device
    -- Whatever the beeper answers, the gate goes on as if it had worked.
    refine ⟨?_, ?_, ?_⟩
    all_goals simp only [Console.updateTone, ToneGate.update, if_neg same, ToneGate.switch]
    · rfl
    · cases next <;> simp [Rig.beeperCalls, Entry.beeper?, BeeperCall.leftOn_concat]

variable [Machine σ]

/-- What an action does to the tone: nothing, or the gate is told what the last happening makes of it. -/
inductive Retuned (c : Console σ δ) (happenings : List (Happening σ)) (e : Console σ δ) : Prop
  | spared (none : ∀ happening ∈ happenings, happening.tone? = none) (spares : c.SparesTone e)
  | told {d : Console σ δ} {tone : Bool} {earlier : List (Happening σ)} {happening : Happening σ}
      (before : c.SparesTone d) (after : (d.updateTone tone).SparesTone e)
      (last : happenings = earlier ++ [happening]) (concerns : happening.tone? = some tone)

theorem Retuned.told_only {happening : Happening σ} {tone : Bool} {e : Console σ δ} (before : c.SparesTone d)
    (concerns : happening.tone? = some tone) (after : (d.updateTone tone).SparesTone e) :
    c.Retuned [happening] e :=
  .told before after (List.nil_append _).symm concerns

theorem Retuned.spare {happenings : List (Happening σ)} (r : c.Retuned happenings d) {e : Console σ δ}
    (spares : d.SparesTone e) : c.Retuned happenings e := by
  cases r with
  | spared none before => exact .spared none (before.trans spares)
  | told before after last concerns => exact .told before (after.trans spares) last concerns

/-! ## What the actions do to it -/

theorem retuned_choose (c : Console σ δ) (ask : Session σ → Session σ × Except Failure Selection)
    (silently : c.session.rig.journal.Silently (ask c.session).1.rig.journal) :
    c.Retuned (Session.sent (ask c.session).2) (c.choose ask).1 := by
  have asked : c.SparesTone (c.within ask).1 := .of_silently rfl silently
  rcases c.choose_cases ask with ⟨dropped, chosen⟩ | ⟨index, answer, chosen⟩
  · rw [chosen, Session.sent_eq_nil dropped]
    exact .spared (by simp) asked
  · rw [chosen, answer]
    exact .told_only asked rfl .rfl

theorem retuned_change (c : Console σ δ) (ask : Session σ → Session σ × Except Failure Selection)
    (silently : c.session.rig.journal.Silently (ask c.session).1.rig.journal) :
    c.Retuned (Session.sent (ask c.session).2) (c.change ask) := by
  have chosen := c.retuned_choose ask silently
  rcases c.change_cases ask with changed | ⟨notice, changed⟩
  · rw [changed]
    exact chosen
  · rw [changed]
    exact chosen.spare (.of_silently rfl (Rig.silently_note _ _))

theorem retuned_tick (c : Console σ δ) (now : Float) :
    c.Retuned (c.happenings (.tick now)) (c.tick now).1 := by
  have polled : c.SparesTone c.pollLoad := .of_silently c.pollLoad_spares.2 c.silently_pollLoad
  simp only [happenings]
  rcases c.tick_eq now with ⟨-, ticked⟩ | ⟨-, ticked⟩
  -- A load that ends does not concern the tone, not even one that starts the scheduler.
  · have none : ∀ happening ∈ c.session.arrival, happening.tone? = none := fun _ => Session.tone?_of_mem_arrival
    rw [ticked]
    refine .spared ?_ (polled.trans ⟨rfl, rfl⟩)
    cases (c.pollLoad.session.scheduler.pacer.advance now).2 <;> simpa using none
  · let d := c.pollLoad.framed (c.pollLoad.session.scheduler.pacer.advance now).1
    obtain ⟨j, shown, after⟩ := c.pollLoad.shown_framed (c.pollLoad.session.scheduler.pacer.advance now).1
    have framed : c.pollLoad.SparesTone d := ⟨rfl, after.beeperCalls.trans shown.beeperCalls⟩
    rw [ticked]
    exact .told (polled.trans framed) .rfl rfl rfl

theorem retuned_step (c : Console σ δ) :
    c.Retuned [.stepped c.step.session.rig.machine] c.step := by
  obtain ⟨j, shown, after⟩ := c.shown_instructed
  have before : c.SparesTone c.instructed := ⟨rfl, after.beeperCalls.trans shown.beeperCalls⟩
  exact .told_only before rfl .rfl

theorem retuned_act (c : Console σ δ) (action : Action) :
    c.Retuned (c.happenings action) (c.act action) := by
  cases action with
  | boot =>
    simp only [happenings, boot, choose_snd]
    exact c.retuned_choose (·.select 0) (Session.silently_select _ _)
  | tick now => exact c.retuned_tick now
  | event event =>
    cases event with
    | key edge => exact .spared (by simp [happenings, Happening.tone?]) (.of_silently rfl (Router.silently_edge _ _ _))
    | halt =>
      have stopped : c.SparesTone (c.within fun s => (s.stop, ())).1 :=
        .of_silently rfl (Rig.silently_noteAll _ _)
      exact .told_only stopped rfl .rfl
    | resume => exact .spared (by simp [happenings, Happening.tone?]) (.of_silently rfl (Rig.silently_noteAll _ _))
    | step => exact c.retuned_step
    | nextProgram => exact c.retuned_change Session.selectNext (Session.silently_select _ _)
    | prevProgram => exact c.retuned_change Session.selectPrev (Session.silently_select _ _)
    | toggleDebug => exact .spared (by simp [happenings]) ⟨rfl, rfl⟩
    | quit => exact .spared (by simp [happenings]) ⟨rfl, rfl⟩
  | deliver ticket answer =>
    exact .spared (by simp [happenings]) ⟨rfl, by simp [act, Session.deliver, Rig.beeperCalls]⟩
  | abandon ticket =>
    exact .spared (by simp [happenings]) ⟨rfl, by simp [act, Session.abandon, Rig.beeperCalls]⟩

/-- What is kept when the tone is spared, and when the gate is told another, goes by the tone of the run. -/
theorem tuned_run {P : Bool → Console σ δ → Prop}
    (spare : ∀ {tone : Bool} {c d : Console σ δ}, P tone c → c.SparesTone d → P tone d)
    (update : ∀ {tone : Bool} {c : Console σ δ}, P tone c → ∀ next, P next (c.updateTone next))
    (past : List (Happening σ)) (p : P (toneAfter past) c) (actions : List Action) :
    P (toneAfter (past ++ c.history actions)) (c.run actions) := by
  refine run_induction (P := fun past c => P (toneAfter past) c) (fun past c action p => ?_) p actions
  cases c.retuned_act action with
  | spared none spares =>
    rw [Happening.toneAfter_append_of_none none]
    exact spare p spares
  | told before after last concerns =>
    rw [last, ← List.append_assoc, Happening.toneAfter_concat concerns]
    exact spare (update (spare p before) _) after

theorem inTune_run (past : List (Happening σ)) (i : InTune (toneAfter past) c) (actions : List Action) :
    InTune (toneAfter (past ++ c.history actions)) (c.run actions) :=
  tuned_run (fun i => i.spare) (fun i => i.updateTone) past i actions

end Console

end Chip8Console
