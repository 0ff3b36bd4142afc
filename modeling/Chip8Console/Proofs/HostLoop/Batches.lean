import Chip8Console.Proofs.HostLoop

/-! # The host loop as a fold

`Host.serve` is a round as it is meant to be: all events in order, one tick at the time of the round, one page.  Fetches
may end before any of the events and before the tick.  The loop serves one batch of events after the other, up to the
one with the first request to quit; of that batch the events before the request are handled, and nothing else happens
(`host_loop_folds`).  It makes no difference what would have come later.
-/

namespace Chip8Console

/-- The events of a round and its time, with the fetches that end between the events. -/
structure Batch where
  clock : Float
  events : List HostEvent
  fetchEnds : Nat → List FetchEnd := fun _ => []

def Batch.round (batch : Batch) : Round where
  clock := batch.clock
  events := .ok batch.events
  fetchEnds := batch.fetchEnds

namespace Host

variable {σ δ : Type} [Machine σ] [Beeper δ]

/-- Handles all events of a batch, ticks at its time and presents what the console shows then. -/
def serve (host : Host σ δ) (batch : Batch) : Host σ δ :=
  let console := host.console.run (interleave batch.fetchEnds batch.events ++ [.tick batch.clock])
  { console
    terminal := host.terminal.present console.screen.raster console.session.panel
    polls := host.polls + 1 }

/-- Serves one batch after the other. -/
def serveAll (host : Host σ δ) (batches : List Batch) : Host σ δ :=
  batches.foldl serve host

@[simp] theorem polls_serveAll (host : Host σ δ) (batches : List Batch) :
    (host.serveAll batches).polls = host.polls + batches.length := by
  induction batches generalizing host with
  | nil => rfl
  | cons batch batches ih =>
    rw [serveAll, List.foldl_cons, ← serveAll, ih, List.length_cons]
    simp only [serve]
    omega

/-! ## Round by round -/

theorem passed_of_not_mem {events : List HostEvent} (stays : .quit ∉ events) :
    ∀ event ∈ events, decide (event ≠ .quit) = true := by
  intro event listed
  apply decide_eq_true
  rintro rfl
  exact stays listed

theorem handled_append_quit {before : List HostEvent} (stays : .quit ∉ before) (after : List HostEvent) :
    handled (before ++ .quit :: after) = before := by
  rw [handled, List.takeWhile_append_of_pos (passed_of_not_mem stays)]
  simp

theorem handled_of_not_mem {events : List HostEvent} (stays : .quit ∉ events) : handled events = events := by
  rw [handled, List.takeWhile_eq_self_iff]
  exact passed_of_not_mem stays

/-- A batch without a request to quit is served, and the loop goes on. -/
theorem runRounds_batch (host : Host σ δ) {batch : Batch} (stays : .quit ∉ batch.events) (rounds : List Round) :
    host.runRounds (batch.round :: rounds) = (host.serve batch).runRounds rounds := by
  obtain ⟨console, terminal, polls⟩ := host
  simp [runRounds, Batch.round, handleAll_eq, handled_of_not_mem, stays, refresh, serve, Console.run,
    Console.act]

theorem runRounds_batches (host : Host σ δ) {batches : List Batch} (stay : ∀ batch ∈ batches, .quit ∉ batch.events)
    (rounds : List Round) :
    host.runRounds (batches.map Batch.round ++ rounds) = (host.serveAll batches).runRounds rounds := by
  induction batches generalizing host with
  | nil => rfl
  | cons batch batches ih =>
    obtain ⟨first, others⟩ := List.forall_mem_cons.mp stay
    rw [List.map_cons, List.cons_append, runRounds_batch host first]
    exact ih (host.serve batch) others

theorem runRounds_quit (host : Host σ δ) (clock : Float) {before : List HostEvent} (stays : .quit ∉ before)
    (after : List HostEvent) (fetchEnds : Nat → List FetchEnd) (rounds : List Round) :
    host.runRounds (⟨clock, .ok (before ++ .quit :: after), fetchEnds⟩ :: rounds) =
      ({ host with
          console := (host.console.run (interleave fetchEnds before)).note .quit
          polls := host.polls + 1 }, .quit) := by
  obtain ⟨console, terminal, polls⟩ := host
  simp [runRounds, handleAll_eq, handled_append_quit stays]

theorem runRounds_error (host : Host σ δ) (clock : Float) (failure : Failure) (fetchEnds : Nat → List FetchEnd)
    (rounds : List Round) :
    host.runRounds (⟨clock, .error failure, fetchEnds⟩ :: rounds) =
      ({ host with polls := host.polls + 1 }, .failed failure) := rfl

end Host

/-- Batches one of which asks to quit: those before the first that does, and this one with the events around the first
request. -/
theorem exists_first_quit {batches : List Batch} (quits : ∃ batch ∈ batches, .quit ∈ batch.events) :
    ∃ served clock before after fetchEnds rest,
      batches = served ++ ⟨clock, before ++ .quit :: after, fetchEnds⟩ :: rest ∧
        (∀ batch ∈ served, .quit ∉ batch.events) ∧ .quit ∉ before := by
  induction batches with
  | nil => simp at quits
  | cons batch batches ih =>
    by_cases now : .quit ∈ batch.events
    · obtain ⟨before, after, events, none⟩ := List.eq_append_cons_of_mem now
      exact ⟨[], batch.clock, before, after, batch.fetchEnds, batches, by rw [← events]; rfl, List.forall_mem_nil _,
        none⟩
    · have later : ∃ batch ∈ batches, .quit ∈ batch.events := by simpa [now] using quits
      obtain ⟨served, clock, before, after, fetchEnds, rest, rfl, stay, none⟩ := ih later
      exact ⟨batch :: served, clock, before, after, fetchEnds, rest, rfl, List.forall_mem_cons.mpr ⟨now, stay⟩, none⟩

/-- The loop serves the batches before the one with the first request to quit, handles the events before this request,
and ends well; where the events of a round cannot be had before anybody asks to quit, it ends with that failure, after
the rounds before it.  Settings that are out of bounds end it before it has done anything. -/
theorem host_loop_folds {σ δ : Type} [Machine σ] [Beeper δ] (host : Host σ δ) (settings : Settings) :
    (∀ failure, settings.validate = .error failure → ∀ rounds, host.run settings rounds = (host, .failed failure)) ∧
    (settings.validate = .ok () →
      (∀ batches : List Batch, (∃ batch ∈ batches, .quit ∈ batch.events) → ∀ later : List Round,
        ∃ served clock before after fetchEnds rest,
          batches = served ++ ⟨clock, before ++ .quit :: after, fetchEnds⟩ :: rest ∧
          (∀ batch ∈ served, .quit ∉ batch.events) ∧ .quit ∉ before ∧
          let reached := host.serveAll served
          host.run settings (batches.map Batch.round ++ later) =
            ({ console := (reached.console.run (Host.interleave fetchEnds before)).note .quit
               terminal := reached.terminal
               polls := host.polls + served.length + 1 }, .quit)) ∧
      ∀ served : List Batch, (∀ batch ∈ served, .quit ∉ batch.events) → ∀ clock failure fetchEnds later,
        let reached := host.serveAll served
        host.run settings (served.map Batch.round ++ ⟨clock, .error failure, fetchEnds⟩ :: later) =
          ({ console := reached.console
             terminal := reached.terminal
             polls := host.polls + served.length + 1 }, .failed failure)) := by
  refine ⟨?_, fun valid => ⟨?_, ?_⟩⟩
  · intro failure refused rounds
    rw [Host.run, refused]
  · intro batches quits later
    obtain ⟨served, clock, before, after, fetchEnds, rest, rfl, stay, none⟩ := exists_first_quit quits
    refine ⟨served, clock, before, after, fetchEnds, rest, rfl, stay, none, ?_⟩
    rw [Host.run_of_valid host valid, List.map_append, List.append_assoc, Host.runRounds_batches host stay]
    simp [Batch.round, Host.runRounds_quit _ clock none]
  · intro served stay clock failure fetchEnds later
    simp [Host.run_of_valid host valid, Host.runRounds_batches host stay, Host.runRounds_error]

/-- The program that the first batch asks for comes before the tick.  The second batch asks to quit, twice; a failure
comes in its place; and there is a scale of nothing. -/
theorem loop_quits_in_second_round :
    let host : Host Puppet Unit :=
      { console :=
          { session := .new {} 60 .promised .builtin
            screen := .new { resolution := {}, foreground := ⟨255, 255, 255⟩ }
            tone := .muted }
        terminal := .blank }
    let first : Batch :=
      { clock := 0
        events := [.resume, .nextProgram]
        fetchEnds := fun n => if n = 2 then [.answered 0 (.ok [0x12])] else [] }
    let second : Batch := { clock := 20, events := [.step, .quit, .resume, .quit] }
    let served := host.serve first
    served.console.session.rig.loads = [[0x12]] ∧
    ({} : Settings).validate = .ok () ∧ (host.run {} ([first, second].map Batch.round)).2 = .quit ∧
    host.run {} [first.round, { clock := 20, events := .error (.file .notFound) }] =
      ({ console := served.console, terminal := served.terminal, polls := 2 }, .failed (.file .notFound)) ∧
    host.run { scale := 0 } ([first, second].map Batch.round) = (host, .failed (.settings (.scale 0))) := by
  intro host first second served
  obtain ⟨-, folds⟩ := host_loop_folds host {}
  obtain ⟨quits, fails⟩ := folds Settings.validate_default
  have stays : ∀ batch ∈ [first], .quit ∉ batch.events := by decide
  obtain ⟨_, _, _, _, _, _, -, -, -, quit⟩ := quits [first, second] ⟨second, by simp, by decide⟩ []
  have refused : ({ scale := 0 } : Settings).validate = .error (.settings (.scale 0)) := by
    rw [Settings.validate, if_neg (by decide +kernel), if_neg (by decide +kernel), if_pos (by decide)]
  have loaded : served.console.session.rig.loads = [[0x12]] := by decide +kernel
  exact ⟨loaded, Settings.validate_default, congrArg Prod.snd quit, fails [first] stays 20 _ _ [],
    (host_loop_folds host _).1 _ refused _⟩

end Chip8Console
