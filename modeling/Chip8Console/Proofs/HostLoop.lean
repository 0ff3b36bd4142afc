import Chip8Console.HostLoop
import Chip8Console.Machine.Puppet
import Chip8Console.Proofs.Console.Tone
import Chip8Console.Proofs.Settings.Bounds

/-! # The host loop as a run

To the console the loop is a run like any other: the events of each round, the fetches that end between them, and a
tick, up to the first request to quit or to the first round whose events cannot be had (`Host.runRounds_eq`).  So what
holds after every run holds when the loop ends.  In particular the tone is left as it was: nothing silences it on
the way out (`tone_at_quit`).
-/

namespace Chip8Console

open Happening (toneAfter)

theorem Console.handle_snd {σ δ : Type} [Machine σ] [Beeper δ] (c : Console σ δ) {event : HostEvent}
    (stays : event ≠ .quit) : (c.handle event).2 = .continue := by
  cases event <;> first | rfl | exact absurd rfl stays

def FetchEnd.action : FetchEnd → Action
  | .answered ticket answer => .deliver ticket answer
  | .abandoned ticket => .abandon ticket

namespace Host

/-- Events, with the fetches that end before each of them and after the last. -/
def interleave (fetchEnds : Nat → List FetchEnd) : List HostEvent → List Action
  | [] => (fetchEnds 0).map FetchEnd.action
  | event :: events =>
    (fetchEnds 0).map FetchEnd.action ++ .event event :: interleave (fun n => fetchEnds (n + 1)) events

/-- The events that are handled of those that have come. -/
def handled (events : List HostEvent) : List HostEvent :=
  events.takeWhile (· ≠ .quit)

/-- What the loop does to the console. -/
def actions : List Round → List Action
  | [] => []
  | ⟨clock, events, fetchEnds⟩ :: rounds =>
    match events with
    | .error _ => []
    | .ok events =>
      interleave fetchEnds (handled events) ++ if .quit ∈ events then [] else .tick clock :: actions rounds

/-- How a script makes the loop end. -/
def ending : List Round → Ending
  | [] => .unfinished
  | ⟨_, events, _⟩ :: rounds =>
    match events with
    | .error failure => .failed failure
    | .ok events => if .quit ∈ events then .quit else ending rounds

variable {σ δ : Type} [Machine σ] [Beeper δ]

theorem foldl_endFetch (console : Console σ δ) (ends : List FetchEnd) :
    ends.foldl Console.endFetch console = console.run (ends.map FetchEnd.action) := by
  rw [Console.run, List.foldl_map]
  congr 1
  funext c fetchEnd
  cases fetchEnd <;> rfl

theorem handleAll_eq (console : Console σ δ) (fetchEnds : Nat → List FetchEnd) (events : List HostEvent) :
    handleAll console fetchEnds events =
      (console.run (interleave fetchEnds (handled events)), if .quit ∈ events then .quit else .continue) := by
  induction events generalizing console fetchEnds with
  | nil => simp [handleAll, foldl_endFetch, handled, interleave]
  | cons event events ih =>
    rw [handleAll, foldl_endFetch]
    -- What ends before the event comes first, whether it is a request to quit or not.
    generalize reached : console.run ((fetchEnds 0).map FetchEnd.action) = c
    by_cases quits : event = .quit
    · subst quits
      simp [Console.handle, handled, interleave, reached]
    · have stays : c.handle event = ((c.handle event).1, .continue) := Prod.ext rfl (c.handle_snd quits)
      have others : handled (event :: events) = event :: handled events := by simp [handled, quits]
      have acted : c.run (.event event :: interleave (fun n => fetchEnds (n + 1)) (handled events)) =
          (c.handle event).1.run (interleave (fun n => fetchEnds (n + 1)) (handled events)) := rfl
      rw [stays]
      simp only [ih]
      rw [others, interleave, Console.run_append, reached, acted]
      simp [Ne.symm quits]

/-- The loop ends as the script says.  It has then taken the actions, and has made a notice if it was asked
to quit. -/
theorem runRounds_eq (host : Host σ δ) (rounds : List Round) :
    let played := host.console.run (actions rounds)
    (host.runRounds rounds).2 = ending rounds ∧
      (host.runRounds rounds).1.console = match ending rounds with
        | .quit => played.note .quit
        | _ => played := by
  induction rounds generalizing host with
  | nil => exact ⟨rfl, rfl⟩
  | cons round rounds ih =>
    obtain ⟨clock, events, fetchEnds⟩ := round
    obtain ⟨console, terminal, polls⟩ := host
    cases events with
    | error failure => exact ⟨rfl, rfl⟩
    | ok events =>
      simp only [runRounds, handleAll_eq, actions, ending]
      by_cases quits : .quit ∈ events
      -- No tick comes after the request to quit.
      · simp [quits]
      · simp only [quits, if_false, Console.run_append]
        exact ih _

theorem run_of_valid (host : Host σ δ) {settings : Settings} (valid : settings.validate = .ok ())
    (rounds : List Round) : host.run settings rounds = host.runRounds rounds := by
  rw [run, valid]

end Host

/-- A loop that is asked to quit does so, and the tone is then as the latest happening that concerns it has
left it: the beeper stays on if that is a cycle or a step with which the machine has a tone. -/
theorem tone_at_quit {σ δ : Type} [Machine σ] [Beeper δ] (machine : σ) (frameRate : Float)
    (fetcher : Fetcher) (catalog : Catalog) (screen : Screen) (beeper : δ) (before : List Action)
    (terminal : Terminal) (polls : Nat) {settings : Settings} (valid : settings.validate = .ok ())
    {rounds : List Round} (quits : Host.ending rounds = .quit) :
    let c : Console σ δ :=
      { session := .new machine frameRate fetcher catalog, screen, tone := { device := some beeper } }
    let host : Host σ δ := { console := c.run before, terminal, polls }
    let loop := host.run settings rounds
    let left := loop.1.console
    let tone := toneAfter (c.history (before ++ Host.actions rounds))
    loop.2 = .quit ∧ left.tone.sounding = tone ∧
      ((∀ earlier later, left.session.rig.beeperCalls = earlier ++ .beep :: later → .stop ∈ later) ↔
        tone = false) := by
  intro c host loop left tone
  have start : c.InTune (toneAfter ([] : List (Happening σ))) := by
    refine ⟨rfl, rfl, iff_of_false ?_ Bool.false_ne_true⟩
    simp [c, Session.new, Rig.beeperCalls, Journal.beeperCalls, BeeperCall.LeftOn]
  have played : (host.console.run (Host.actions rounds)).InTune tone := by
    rw [← Console.run_append]
    exact Console.inTune_run [] start (before ++ Host.actions rounds)
  have looped := host.runRounds_eq rounds
  rw [← host.run_of_valid valid, quits] at looped
  -- The notice is all that the loop adds once it was asked to quit.
  have noted : left = (host.console.run (Host.actions rounds)).note .quit := looped.2
  have inTune : left.InTune tone := noted ▸ played.spare ⟨rfl, Rig.beeperCalls_note _ _⟩
  refine ⟨looped.1, inTune.sounding, ?_⟩
  rw [← BeeperCall.not_leftOn_iff, inTune.leftOn_iff, Bool.not_eq_true]

def Terminal.blank : Terminal where
  resolution := {}
  foreground := ⟨255, 255, 255⟩
  shown := .blank 0 0
  last := .blank 0 0

/-- A program comes in the first round.  A tick has run a cycle with which the machine has a tone, and a halt comes
before the request to quit. -/
theorem silent_after_halt :
    let c : Console Puppet Unit :=
      { session := .new { sound := true } 60 .promised .builtin
        screen := .new { resolution := {}, foreground := ⟨255, 255, 255⟩ }
        tone := { device := some () } }
    let host : Host Puppet Unit := { console := c.run [.boot], terminal := .blank }
    let rounds : List Round :=
      [{ clock := 0, events := .ok [], fetchEnds := fun _ => [.answered 0 (.ok [0x12])] },
        { clock := 20, events := .ok [] }, { clock := 40, events := .ok [.halt, .quit, .step] }]
    let loop := host.run {} rounds
    let left := loop.1.console
    loop.2 = .quit ∧ left.tone.sounding = false ∧
      ∀ earlier later, left.session.rig.beeperCalls = earlier ++ .beep :: later → .stop ∈ later := by
  have quit := tone_at_quit ({ sound := true } : Puppet) 60 .promised .builtin
    (.new { resolution := {}, foreground := ⟨255, 255, 255⟩ }) () [.boot] .blank 0
    Settings.validate_default (show Host.ending
      [{ clock := 0, events := .ok [], fetchEnds := fun _ => [.answered 0 (.ok [0x12])] },
        { clock := 20, events := .ok [] }, { clock := 40, events := .ok [.halt, .quit, .step] }] = .quit from rfl)
  dsimp only at quit ⊢
  refine ⟨quit.1, quit.2.1.trans ?_, quit.2.2.mpr ?_⟩
  · decide +kernel
  · decide +kernel

/-- The same without the halt. -/
theorem beeping_after_quit :
    let c : Console Puppet Unit :=
      { session := .new { sound := true } 60 .promised .builtin
        screen := .new { resolution := {}, foreground := ⟨255, 255, 255⟩ }
        tone := { device := some () } }
    let host : Host Puppet Unit := { console := c.run [.boot, .deliver 0 (.ok [0x12])], terminal := .blank }
    let rounds : List Round :=
      [{ clock := 0, events := .ok [] }, { clock := 20, events := .ok [] }, { clock := 40, events := .ok [.quit] }]
    let loop := host.run {} rounds
    loop.2 = .quit ∧ loop.1.console.tone.sounding = true ∧
      loop.1.console.session.rig.beeperCalls = [.beep] := by
  intro c host rounds loop
  have looped := host.runRounds_eq rounds
  rw [← host.run_of_valid Settings.validate_default] at looped
  refine ⟨looped.1, ?_, ?_⟩
  · rw [looped.2]
    decide +kernel
  · rw [looped.2]
    decide +kernel

end Chip8Console
