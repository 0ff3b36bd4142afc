import Chip8Console.Proofs.Console.Paired
import Chip8Console.Proofs.Console.Tone

/-! # The protocol of the tone

A beeper only ever hears beep and stop in turn, whatever it answers, and the gate sounds exactly when the
latest happening that concerns the tone is a cycle or a step with which the machine has one
(`tone_protocol`).  `Follows` is the invariant.  The number of calls so far tells which of the two comes
next, so what has to be kept is that it is odd exactly while the gate sounds.
-/

namespace Chip8Console

open Happening (toneAfter)

namespace BeeperCall

/-- Beep and stop in turn, the first of them a beep. -/
def InTurn (calls : List BeeperCall) : Prop :=
  ∀ n call, calls[n]? = some call → call = if n % 2 = 0 then .beep else .stop

variable {calls : List BeeperCall}

theorem inTurn_nil : InTurn [] := by
  simp [InTurn]

theorem InTurn.concat (turn : InTurn calls) {call : BeeperCall}
    (next : call = if calls.length % 2 = 0 then .beep else .stop) : InTurn (calls ++ [call]) := by
  intro n other place
  rw [List.getElem?_append] at place
  split at place
  · exact turn n other place
  · obtain ⟨rfl, rfl⟩ : n = calls.length ∧ call = other := by
      cases beyond : n - calls.length with
      | zero =>
        rw [beyond] at place
        exact ⟨by omega, by simpa using place⟩
      | succ k => simp [beyond] at place
    exact next

theorem InTurn.getLast?_eq_beep_iff (turn : InTurn calls) :
    calls.getLast? = some .beep ↔ calls.length % 2 = 1 := by
  rw [List.getLast?_eq_getElem?]
  cases last : calls[calls.length - 1]? with
  | none =>
    have none : calls.length ≤ calls.length - 1 := List.getElem?_eq_none_iff.mp last
    simp [show calls.length = 0 by omega]
  | some call =>
    have short := (List.getElem?_eq_some_iff.mp last).1
    rw [turn _ _ last]
    split <;> simp <;> omega

end BeeperCall

theorem Happening.tone?_eq_true_iff {σ : Type} [Machine σ] {happening : Happening σ} :
    happening.tone? = some true ↔ ∃ machine,
      (happening = .ran machine ∨ happening = .stepped machine) ∧ Machine.soundActive machine = true := by
  cases happening <;> simp [tone?]

namespace Console

variable {σ δ : Type} {c d : Console σ δ} {audible active : Bool}

/-- The gate has let the tone through, to a beeper if there is one, and that has heard all in turn. -/
structure Follows (audible active : Bool) (c : Console σ δ) : Prop where
  sounding : c.tone.sounding = active
  device : c.tone.device.isSome = audible
  inTurn : BeeperCall.InTurn c.session.rig.beeperCalls
  odd_iff : c.session.rig.beeperCalls.length % 2 = 1 ↔ (audible && active) = true

theorem Follows.spare (f : Follows audible active c) (spares : c.SparesTone d) :
    Follows audible active d := by
  obtain ⟨tone, beeperCalls⟩ := spares
  exact ⟨by rw [tone]; exact f.sounding, by rw [tone]; exact f.device,
    by rw [beeperCalls]; exact f.inTurn, by rw [beeperCalls]; exact f.odd_iff⟩

variable [Beeper δ]

theorem Follows.updateTone (f : Follows audible active c) (next : Bool) :
    Follows audible next (c.updateTone next) := by
  by_cases same : next = c.tone.sounding
  · subst same
    rw [updateTone_sounding]
    obtain ⟨rfl, device, inTurn, odd_iff⟩ := f
    exact ⟨rfl, device, inTurn, odd_iff⟩
  obtain ⟨session, screen, ⟨device, sounding⟩⟩ := c
  obtain ⟨rfl, rfl, inTurn, odd_iff⟩ := f
  cases device with
  | none =>
    have muted : (Console.updateTone ⟨session, screen, ⟨none, sounding⟩⟩ next : Console σ δ) =
        ⟨session, screen, ⟨none, next⟩⟩ := by
      simp only [Console.updateTone, ToneGate.update, if_neg same]
    rw [muted]
    exact ⟨rfl, rfl, inTurn, by simpa using odd_iff⟩
  | some device =>
    -- The tone has changed, so the call that is due is the one that is made.
    have due : (if next then .beep else .stop : BeeperCall) =
        if session.rig.beeperCalls.length % 2 = 0 then .beep else .stop := by
      cases next <;> cases sounding <;> simp_all
    have made : (Console.updateTone ⟨session, screen, ⟨some device, sounding⟩⟩ next).session.rig.beeperCalls =
        session.rig.beeperCalls ++ [if next then .beep else .stop] := by
      simp only [Console.updateTone, ToneGate.update, if_neg same, ToneGate.switch]
      simp [Rig.beeperCalls, Entry.beeper?]
    refine ⟨?_, ?_, ?_, ?_⟩
    · simp only [Console.updateTone, ToneGate.update, if_neg same]
    · simp only [Console.updateTone, ToneGate.update, if_neg same]
      rfl
    · rw [made]
      exact inTurn.concat due
    · rw [made, List.length_append, List.length_singleton]
      cases next <;> cases sounding <;> simp_all <;> omega

variable [Machine σ]

/-- An action that does not come to anything that concerns the tone. -/
def Toneless (c : Console σ δ) : Action → Prop
  | .boot => ∀ index, c.boot.2 ≠ .ok (.loading index)
  | .tick now => (c.tick now).2 ≠ .executed
  | .event .nextProgram => ∀ index, c.session.selectNext.2 ≠ .ok (.loading index)
  | .event .prevProgram => ∀ index, c.session.selectPrev.2 ≠ .ok (.loading index)
  | .event .halt | .event .step => False
  | .event (.key _) | .event .resume | .event .toggleDebug | .event .quit => True
  | .deliver .. | .abandon .. => True

theorem tone?_of_toneless {action : Action} (toneless : c.Toneless action) :
    ∀ happening ∈ c.happenings action, happening.tone? = none := by
  cases action with
  | boot => simp [happenings, Session.sent_eq_nil toneless]
  | tick now =>
    simp only [happenings]
    cases outcome : (c.tick now).2 with
    | executed => exact absurd outcome toneless
    | waiting | skipped => simpa using fun _ => Session.tone?_of_mem_arrival
  | event event =>
    cases event with
    | key edge => simp [happenings, Happening.tone?]
    | halt | step => exact toneless.elim
    | resume => simp [happenings, Happening.tone?]
    | nextProgram | prevProgram => simp [happenings, Session.sent_eq_nil toneless]
    | toggleDebug | quit => simp [happenings]
  | deliver ticket answer | abandon ticket => simp [happenings]

theorem sparesTone_of_toneless {action : Action} (toneless : c.Toneless action) :
    c.SparesTone (c.act action) := by
  cases c.retuned_act action with
  | spared _ spares => exact spares
  | told _ _ last concerns =>
    rw [tone?_of_toneless toneless _ (last ▸ List.mem_concat_self)] at concerns
    cases concerns

end Console

/-- In every run the beeper is asked to beep and to stop in turn.  The gate sounds exactly when of the cycles,
steps, halts and accepted selections so far the latest is a cycle or a step with which the machine has a
tone, and the last call was a beep exactly then; all else leaves both alone.  The beeper itself has gone through
these calls and through nothing else. -/
theorem tone_protocol {σ δ : Type} [Machine σ] [Beeper δ] (machine : σ) (frameRate : Float)
    (fetcher : Fetcher) (catalog : Catalog) (screen : Screen) (beeper : Option δ) (actions : List Action) :
    let c : Console σ δ :=
      { session := .new machine frameRate fetcher catalog, screen, tone := { device := beeper } }
    let d := c.run actions
    let calls := d.session.rig.beeperCalls
    BeeperCall.InTurn calls ∧
    (d.tone.sounding = true ↔ ∃ earlier happening later,
      c.history actions = earlier ++ happening :: later ∧
        (∃ machine, (happening = .ran machine ∨ happening = .stepped machine) ∧
          Machine.soundActive machine = true) ∧
        ∀ other ∈ later, other.tone? = none) ∧
    (beeper.isSome → (calls.getLast? = some .beep ↔ d.tone.sounding = true)) ∧
    (∀ action, d.Toneless action → d.SparesTone (d.act action)) ∧
    d.tone.device = beeper.map (Beeper.after · calls) := by
  intro c d calls
  have start : c.Follows beeper.isSome (toneAfter ([] : List (Happening σ))) :=
    ⟨rfl, rfl, BeeperCall.inTurn_nil, by simp [c, Session.new, Rig.beeperCalls, Journal.beeperCalls, toneAfter]⟩
  have follows : d.Follows beeper.isSome (toneAfter (c.history actions)) :=
    Console.tuned_run (fun f => f.spare) (fun f => f.updateTone) [] start actions
  refine ⟨follows.inTurn, ?_, ?_, fun action => Console.sparesTone_of_toneless, (Console.replay_run rfl actions).2⟩
  · rw [follows.sounding, toneAfter, Option.getD_eq_iff, or_iff_left (by simp),
      getLast?_filterMap_eq_some_iff]
    simp only [Happening.tone?_eq_true_iff]
  · intro audible
    rw [follows.inTurn.getLast?_eq_beep_iff, follows.odd_iff, follows.sounding, audible, Bool.true_and]

end Chip8Console
