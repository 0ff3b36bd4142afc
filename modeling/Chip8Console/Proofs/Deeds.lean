import Chip8Console.Session

/-! # Deeds

The calls on the machine and the fetches that are started, in the order in which they are made.
Everything else in the journal is commentary: `deeds` leaves it out, and the lemmas here say for each
part of the console which deeds it adds.
-/

namespace Chip8Console

/-- Something that has an effect outside the console. -/
inductive Deed where
  | call (call : Call)
  | fetch (locator : String)
deriving DecidableEq

def Deed.call? : Deed → Option Call
  | .call c => some c
  | .fetch _ => none

def Entry.deed? : Entry → Option Deed
  | .call c => some (.call c)
  | .fetch locator => some (.fetch locator)
  | _ => none

namespace Journal

def deeds (j : Journal) : List Deed :=
  j.toList.filterMap Entry.deed?

theorem calls_eq (j : Journal) : j.calls = j.deeds.filterMap Deed.call? := by
  simp only [calls, deeds, List.filterMap_filterMap]
  congr 1
  funext entry
  cases entry <;> rfl

theorem calls_of_deeds {j k : Journal} {more : List Deed} (grown : j.deeds = k.deeds ++ more) :
    j.calls = k.calls ++ more.filterMap Deed.call? := by
  rw [calls_eq, grown, List.filterMap_append, ← calls_eq]

@[simp] theorem deeds_empty : deeds #[] = [] := rfl

@[simp] theorem deeds_add (j : Journal) (entry : Entry) :
    (j.add entry).deeds = j.deeds ++ entry.deed?.toList := by
  cases entry <;> simp [deeds, add, Entry.deed?]

@[simp] theorem deeds_note (j : Journal) (notice : Notice) : (j.note notice).deeds = j.deeds := by
  simp [deeds, note, Entry.deed?]

@[simp] theorem deeds_noteAll (j : Journal) (notices : List Notice) :
    (j.noteAll notices).deeds = j.deeds := by
  induction notices generalizing j with
  | nil => rfl
  | cons notice notices ih => exact (ih (j.note notice)).trans (deeds_note j notice)

end Journal

/-! ## The rig -/

namespace Rig

variable {σ : Type}

@[simp] theorem deeds_note (rig : Rig σ) (notice : Notice) :
    (rig.note notice).journal.deeds = rig.journal.deeds :=
  Journal.deeds_note _ _

@[simp] theorem deeds_noteAll (rig : Rig σ) (notices : List Notice) :
    (rig.noteAll notices).journal.deeds = rig.journal.deeds :=
  Journal.deeds_noteAll _ _

@[simp] theorem deeds_show {ν : Type} [View ν σ] (rig : Rig σ) (view : ν) :
    (rig.show view).1.journal.deeds = rig.journal.deeds := by
  simp [Rig.show, Entry.deed?]

@[simp] theorem deeds_startFetch (rig : Rig σ) (fetcher : Fetcher) (locator : String) :
    (rig.startFetch fetcher locator).1.journal.deeds = rig.journal.deeds ++ [.fetch locator] :=
  Journal.deeds_add _ _

/-- Answers come in without a trace in the journal. -/
@[simp] theorem journal_deliver (rig : Rig σ) (ticket : Nat) (answer : Fetched) :
    (rig.deliver ticket answer).1.journal = rig.journal := by
  unfold deliver
  repeat' split
  all_goals rfl

@[simp] theorem journal_abandon (rig : Rig σ) (ticket : Nat) :
    (rig.abandon ticket).1.journal = rig.journal := by
  unfold abandon
  repeat' split
  all_goals rfl

variable [Machine σ]

@[simp] theorem deeds_reset (rig : Rig σ) :
    rig.reset.journal.deeds = rig.journal.deeds ++ [.call .reset] :=
  Journal.deeds_add _ _

@[simp] theorem deeds_load (rig : Rig σ) (bytes : List UInt8) :
    (rig.load bytes).journal.deeds = rig.journal.deeds ++ [.call (.load bytes)] :=
  Journal.deeds_add _ _

@[simp] theorem deeds_press (rig : Rig σ) (line : UInt8) :
    (rig.press line).journal.deeds = rig.journal.deeds ++ [.call (.press line)] :=
  Journal.deeds_add _ _

@[simp] theorem deeds_release (rig : Rig σ) (line : UInt8) :
    (rig.release line).journal.deeds = rig.journal.deeds ++ [.call (.release line)] :=
  Journal.deeds_add _ _

@[simp] theorem deeds_runCycle (rig : Rig σ) :
    rig.runCycle.1.journal.deeds = rig.journal.deeds ++ [.call .cycle] :=
  Journal.deeds_add _ _

@[simp] theorem deeds_runOpCode (rig : Rig σ) :
    rig.runOpCode.1.journal.deeds = rig.journal.deeds ++ [.call .opCode] :=
  Journal.deeds_add _ _

theorem foldl_release (lines : List UInt8) (rig : Rig σ) :
    (lines.foldl release rig).journal.deeds =
        rig.journal.deeds ++ lines.map (fun line => .call (.release line)) ∧
      (lines.foldl release rig).fetches = rig.fetches := by
  induction lines generalizing rig with
  | nil => simp
  | cons line lines ih =>
    obtain ⟨deeds, fetches⟩ := ih (rig.release line)
    refine ⟨?_, fetches⟩
    rw [List.foldl_cons, deeds, deeds_release, List.map_cons, List.append_assoc, List.singleton_append]

/-- The deeds of letting every line of the keypad come up. -/
def releases : List Deed :=
  allLines.map fun line => .call (.release line)

@[simp] theorem deeds_releaseAll (rig : Rig σ) :
    rig.releaseAll.journal.deeds = rig.journal.deeds ++ releases :=
  (foldl_release allLines rig).1

@[simp] theorem fetches_releaseAll (rig : Rig σ) : rig.releaseAll.fetches = rig.fetches :=
  (foldl_release allLines rig).2

end Rig

/-! ## Changes of program -/

namespace Session

variable {σ : Type}

@[simp] theorem deeds_start (s : Session σ) : s.start.rig.journal.deeds = s.rig.journal.deeds :=
  Rig.deeds_noteAll _ _

@[simp] theorem deeds_stop (s : Session σ) : s.stop.rig.journal.deeds = s.rig.journal.deeds :=
  Rig.deeds_noteAll _ _

@[simp] theorem deeds_install (s : Session σ) (mappings : List KeyMapping) :
    (s.install mappings).rig.journal.deeds = s.rig.journal.deeds :=
  Rig.deeds_noteAll _ _

@[simp] theorem deeds_close (s : Session σ) (ticket : Nat) :
    (s.close ticket).rig.journal.deeds = s.rig.journal.deeds := rfl

@[simp] theorem deeds_fail (s : Session σ) (failure : Failure) :
    (s.fail failure).rig.journal.deeds = s.rig.journal.deeds := by
  simp [fail]

variable [Machine σ]

/-- Sending for a program resets the machine before the fetch starts. -/
@[simp] theorem deeds_send (s : Session σ) (index : Nat) (program : Program) :
    (s.send index program).rig.journal.deeds =
      s.rig.journal.deeds ++ [.call .reset, .fetch program.locator] := by
  simp [send]

@[simp] theorem deeds_finish (s : Session σ) (program : Program) (bytes : List UInt8) :
    (s.finish program bytes).rig.journal.deeds =
      s.rig.journal.deeds ++ .call (.load bytes) :: Rig.releases := by
  simp [finish]

/-! The calls among these deeds. -/

omit [Machine σ] in
theorem calls_fail (s : Session σ) (failure : Failure) : (s.fail failure).rig.journal.calls = s.rig.journal.calls := by
  rw [Journal.calls_eq, deeds_fail, ← Journal.calls_eq]

theorem calls_send (s : Session σ) (index : Nat) (program : Program) :
    (s.send index program).rig.journal.calls = s.rig.journal.calls ++ [.reset] :=
  Journal.calls_of_deeds (deeds_send s index program)

theorem calls_finish (s : Session σ) (program : Program) (bytes : List UInt8) :
    (s.finish program bytes).rig.journal.calls =
      s.rig.journal.calls ++ .load bytes :: Rig.allLines.map .release :=
  Journal.calls_of_deeds (deeds_finish s program bytes)

@[simp] theorem fetches_finish (s : Session σ) (program : Program) (bytes : List UInt8) :
    (s.finish program bytes).rig.fetches = s.rig.fetches := by
  simp only [finish, install, Rig.note, Rig.noteAll, Rig.fetches_releaseAll]
  rfl

end Session

end Chip8Console
