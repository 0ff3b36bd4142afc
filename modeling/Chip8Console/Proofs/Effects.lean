import Chip8Console.Proofs.Deeds
import Chip8Console.Tone

/-! # Effects

All that a journal holds but its notices are effects: calls on the machine and on the beeper, fetches that are
started, and refreshes.  `Rig.Does` says which effects lie between two states of a rig, in their order, and
that the machine has gone through the calls among them and through nothing else.  So what is said of the calls in
a journal is said of the machine too.
-/

namespace Chip8Console

/-! ## Going through calls -/

namespace Machine

variable {σ : Type} [Machine σ]

def obey (machine : σ) : Call → σ
  | .reset => reset machine
  | .load bytes => load machine bytes
  | .cycle => (runCycle machine).1
  | .opCode => (runOpCode machine).1
  | .press line => press machine line
  | .release line => release machine line

/-- The machine after it has gone through calls. -/
def after (machine : σ) (calls : List Call) : σ :=
  calls.foldl obey machine

theorem after_append (machine : σ) (calls more : List Call) :
    after machine (calls ++ more) = after (after machine calls) more :=
  List.foldl_append

end Machine

namespace Beeper

variable {δ : Type} [Beeper δ]

def obey (device : δ) : BeeperCall → δ
  | .beep => (beep device).1
  | .stop => (stop device).1

/-- The beeper after it has gone through calls. -/
def after (device : δ) (calls : List BeeperCall) : δ :=
  calls.foldl obey device

theorem after_append (device : δ) (calls more : List BeeperCall) :
    after device (calls ++ more) = after (after device calls) more :=
  List.foldl_append

end Beeper

/-! ## Effects in a journal -/

def Entry.isEffect : Entry → Bool
  | .notice _ => false
  | _ => true

namespace Journal

def effects (j : Journal) : List Entry :=
  j.toList.filter Entry.isEffect

theorem calls_effects (j : Journal) : j.effects.filterMap Entry.call? = j.calls := by
  rw [effects, List.filterMap_filter, calls]
  congr 1
  funext entry
  cases entry <;> rfl

theorem beeperCalls_effects (j : Journal) : j.effects.filterMap Entry.beeper? = j.beeperCalls := by
  rw [effects, List.filterMap_filter, beeperCalls]
  congr 1
  funext entry
  cases entry <;> rfl

theorem effects_add (j : Journal) {entry : Entry} (effect : entry.isEffect) :
    (j.add entry).effects = j.effects ++ [entry] := by
  simp [effects, add, effect]

@[simp] theorem effects_note (j : Journal) (notice : Notice) : (j.note notice).effects = j.effects := by
  simp [effects, note, Entry.isEffect]

@[simp] theorem effects_noteAll (j : Journal) (notices : List Notice) :
    (j.noteAll notices).effects = j.effects := by
  induction notices generalizing j with
  | nil => rfl
  | cons notice notices ih => exact (ih (j.note notice)).trans (effects_note j notice)

end Journal

/-! ## What a rig does -/

namespace Rig

variable {σ : Type} [Machine σ]

/-- Between two states of a rig there are these effects. -/
structure Does (effects : List Entry) (before after : Rig σ) : Prop where
  journal : after.journal.effects = before.journal.effects ++ effects
  machine : after.machine = Machine.after before.machine (effects.filterMap Entry.call?)

namespace Does

variable {effects more : List Entry} {r s t : Rig σ}

theorem nothing (journal : s.journal.effects = r.journal.effects) (machine : s.machine = r.machine) : Does [] r s :=
  ⟨by rw [journal, List.append_nil], machine⟩

theorem refl (rig : Rig σ) : Does [] rig rig :=
  nothing rfl rfl

theorem trans (first : Does effects r s) (second : Does more s t) : Does (effects ++ more) r t where
  journal := by rw [second.journal, first.journal, List.append_assoc]
  machine := by rw [second.machine, first.machine, List.filterMap_append, Machine.after_append]

/-- What comes last may leave no effects. -/
theorem quietly (first : Does effects r s) (second : Does [] s t) : Does effects r t := by
  simpa using first.trans second

end Does

/-- Between two states of a rig the machine was asked for this, and for nothing else. -/
structure Obeys (asked : List Call) (before after : Rig σ) : Prop where
  calls : after.journal.calls = before.journal.calls ++ asked
  machine : after.machine = Machine.after before.machine asked

theorem Obeys.trans {asked more : List Call} {r s t : Rig σ} (first : Obeys asked r s) (second : Obeys more s t) :
    Obeys (asked ++ more) r t where
  calls := by rw [second.calls, first.calls, List.append_assoc]
  machine := by rw [second.machine, first.machine, Machine.after_append]

theorem Does.beeperCalls {effects : List Entry} {r s : Rig σ} (does : Does effects r s) :
    s.journal.beeperCalls = r.journal.beeperCalls ++ effects.filterMap Entry.beeper? := by
  rw [← Journal.beeperCalls_effects, does.journal, List.filterMap_append, Journal.beeperCalls_effects]

theorem Does.obeys {effects : List Entry} {r s : Rig σ} (does : Does effects r s) :
    Obeys (effects.filterMap Entry.call?) r s where
  calls := by rw [← Journal.calls_effects, does.journal, List.filterMap_append, Journal.calls_effects]
  machine := does.machine

variable (rig : Rig σ)

theorem does_note (notice : Notice) : Does [] rig (rig.note notice) :=
  .nothing (Journal.effects_note _ _) rfl

theorem does_noteAll (notices : List Notice) : Does [] rig (rig.noteAll notices) :=
  .nothing (Journal.effects_noteAll _ _) rfl

theorem does_reset : Does [.call .reset] rig rig.reset :=
  ⟨Journal.effects_add _ rfl, rfl⟩

theorem does_load (bytes : List UInt8) : Does [.call (.load bytes)] rig (rig.load bytes) :=
  ⟨Journal.effects_add _ rfl, rfl⟩

theorem does_press (line : UInt8) : Does [.call (.press line)] rig (rig.press line) :=
  ⟨Journal.effects_add _ rfl, rfl⟩

theorem does_release (line : UInt8) : Does [.call (.release line)] rig (rig.release line) :=
  ⟨Journal.effects_add _ rfl, rfl⟩

theorem does_runCycle : Does [.call .cycle] rig rig.runCycle.1 :=
  ⟨Journal.effects_add _ rfl, rfl⟩

theorem does_runOpCode : Does [.call .opCode] rig rig.runOpCode.1 :=
  ⟨Journal.effects_add _ rfl, rfl⟩

theorem does_show {ν : Type} [View ν σ] (view : ν) : Does [.refresh] rig (rig.show view).1 :=
  ⟨(Journal.effects_noteAll _ _).trans (Journal.effects_add _ rfl), rfl⟩

theorem does_startFetch (fetcher : Fetcher) (locator : String) :
    Does [.fetch locator] rig (rig.startFetch fetcher locator).1 :=
  ⟨Journal.effects_add _ rfl, rfl⟩

theorem does_foldl_release (lines : List UInt8) :
    Does (lines.map fun line => .call (.release line)) rig (lines.foldl release rig) := by
  induction lines generalizing rig with
  | nil => exact .refl rig
  | cons line lines ih => exact (rig.does_release line).trans (ih (rig.release line))

omit [Machine σ] in
theorem machine_deliver (ticket : Nat) (answer : Fetched) : (rig.deliver ticket answer).1.machine = rig.machine := by
  unfold deliver
  repeat' split
  all_goals rfl

omit [Machine σ] in
theorem machine_abandon (ticket : Nat) : (rig.abandon ticket).1.machine = rig.machine := by
  unfold abandon
  repeat' split
  all_goals rfl

theorem does_deliver (ticket : Nat) (answer : Fetched) : Does [] rig (rig.deliver ticket answer).1 :=
  .nothing (by rw [journal_deliver]) (machine_deliver rig ticket answer)

theorem does_abandon (ticket : Nat) : Does [] rig (rig.abandon ticket).1 :=
  .nothing (by rw [journal_abandon]) (machine_abandon rig ticket)

end Rig

/-! ## What a change of program does -/

namespace Session

variable {σ : Type} [Machine σ] (s : Session σ)

theorem does_send (index : Nat) (program : Program) :
    s.rig.Does [.call .reset, .fetch program.locator] (s.send index program).rig :=
  s.rig.does_reset.trans ((Rig.does_note _ _).trans (Rig.does_startFetch _ _ _))

theorem does_finish (program : Program) (bytes : List UInt8) :
    s.rig.Does (.call (.load bytes) :: Rig.allLines.map fun line => .call (.release line))
      (s.finish program bytes).rig := by
  have loaded := (s.rig.does_load bytes).quietly ((s.rig.load bytes).does_noteAll s.scheduler.start.2)
  have released := loaded.trans (Rig.does_foldl_release _ Rig.allLines)
  exact (released.quietly (Rig.does_noteAll _ _)).quietly (Rig.does_note _ _)

theorem obeys_send (index : Nat) (program : Program) : s.rig.Obeys [.reset] (s.send index program).rig :=
  (s.does_send index program).obeys

theorem obeys_finish (program : Program) (bytes : List UInt8) :
    s.rig.Obeys (.load bytes :: Rig.allLines.map .release) (s.finish program bytes).rig := by
  simpa [List.filterMap_map, Function.comp_def] using (s.does_finish program bytes).obeys

theorem exists_does_select (index : Nat) : ∃ effects, s.rig.Does effects (s.select index).1.rig := by
  unfold select
  split
  · exact ⟨[], s.rig.does_note _⟩
  · split
    · exact ⟨[], .refl _⟩
    · exact ⟨_, s.does_send index _⟩

theorem exists_does_poll : ∃ effects, s.rig.Does effects s.poll.1.rig := by
  have closed (ticket : Nat) : s.rig.Does [] (s.close ticket).rig := .nothing rfl rfl
  unfold poll
  split
  · exact ⟨[], .refl _⟩
  · split
    · exact ⟨[], .refl _⟩
    · exact ⟨_, (closed _).trans (does_finish _ _ _)⟩
    · exact ⟨_, (closed _).trans (Rig.does_note _ _)⟩

end Session

end Chip8Console
