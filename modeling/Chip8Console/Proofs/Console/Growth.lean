import Chip8Console.Proofs.Console.History

/-! # How journals grow

Entries are only added to a journal, and at its end.  The loader and the router do so `Silently`: the machine is
neither run nor shown, and the beeper is left alone.  The tone gate does so `Quietly`: it calls the beeper, but
does nothing about the machine either.  What is left is the machine being run and shown at once (`Shown`).
-/

namespace Chip8Console

/-! ## Kinds of entries -/

namespace Call

/-- The machine is run, for a frame or for an instruction. -/
def isRun : Call → Bool
  | .cycle | .opCode => true
  | _ => false

theorem countP_isRun (calls : List Call) : calls.countP isRun = calls.count .cycle + calls.count .opCode := by
  induction calls with
  | nil => rfl
  | cons call calls ih => cases call <;> simp [List.countP_cons, isRun, ih] <;> omega

end Call

namespace Entry

def isRun : Entry → Bool
  | .call c => c.isRun
  | _ => false

def isRefresh : Entry → Bool
  | .refresh => true
  | _ => false

/-- The machine is neither run nor shown. -/
def isQuiet (entry : Entry) : Bool :=
  !entry.isRun && !entry.isRefresh

/-- The beeper is left alone, too. -/
def isSilent (entry : Entry) : Bool :=
  entry.isQuiet && entry.beeper?.isNone

variable {entry : Entry}

theorem isQuiet_iff : entry.isQuiet ↔ entry.isRun = false ∧ entry.isRefresh = false := by
  simp [isQuiet]

theorem isSilent_iff : entry.isSilent ↔ entry.isQuiet ∧ entry.beeper? = none := by
  simp [isSilent]

@[simp] theorem isRun_call (call : Call) : (Entry.call call).isRun = call.isRun := rfl
@[simp] theorem isRun_refresh : Entry.refresh.isRun = false := rfl
@[simp] theorem isRun_notice (notice : Notice) : (Entry.notice notice).isRun = false := rfl
@[simp] theorem isRefresh_call (call : Call) : (Entry.call call).isRefresh = false := rfl
@[simp] theorem isRefresh_refresh : Entry.refresh.isRefresh = true := rfl
@[simp] theorem isRefresh_notice (notice : Notice) : (Entry.notice notice).isRefresh = false := rfl

theorem isSilent_call {call : Call} (other : call.isRun = false) : (Entry.call call).isSilent := by
  simp [isSilent, isQuiet, other, beeper?]

end Entry

namespace Journal

/-- How often the machine was shown. -/
def refreshes (j : Journal) : Nat :=
  j.toList.countP Entry.isRefresh

theorem countP_isRun (j : Journal) : j.toList.countP Entry.isRun = j.calls.countP Call.isRun := by
  rw [calls, List.countP_filterMap]
  congr 1
  funext entry
  cases entry <;> rfl

/-! ## Growing by entries of one kind -/

/-- Entries of one kind were added, and no others. -/
def Grown (kind : Entry → Bool) (j k : Journal) : Prop :=
  ∃ more, k.toList = j.toList ++ more ∧ ∀ entry ∈ more, kind entry

abbrev Quietly : Journal → Journal → Prop := Grown Entry.isQuiet

abbrev Silently : Journal → Journal → Prop := Grown Entry.isSilent

variable {i j k : Journal} {kind : Entry → Bool}

theorem Grown.refl (j : Journal) : Grown kind j j :=
  ⟨[], by simp, by simp⟩

theorem Grown.trans (first : Grown kind i j) (second : Grown kind j k) : Grown kind i k := by
  obtain ⟨more, grown, all⟩ := first
  obtain ⟨more', grown', all'⟩ := second
  refine ⟨more ++ more', by rw [grown', grown, List.append_assoc], fun entry among => ?_⟩
  exact (List.mem_append.mp among).elim (all entry) (all' entry)

theorem Grown.countP_eq {p : Entry → Bool} (grown : Grown kind j k) (none : ∀ entry, kind entry → p entry = false) :
    k.toList.countP p = j.toList.countP p := by
  obtain ⟨more, grown, all⟩ := grown
  have fresh : more.countP p = 0 := List.countP_eq_zero.mpr fun entry among => by
    simp [none entry (all entry among)]
  rw [grown, List.countP_append, fresh, Nat.add_zero]

theorem Grown.filterMap_eq {β : Type} {f : Entry → Option β} (grown : Grown kind j k)
    (none : ∀ entry, kind entry → f entry = none) : k.toList.filterMap f = j.toList.filterMap f := by
  obtain ⟨more, grown, all⟩ := grown
  have fresh : more.filterMap f = [] := List.filterMap_eq_nil_iff.mpr fun entry among => none entry (all entry among)
  rw [grown, List.filterMap_append, fresh, List.append_nil]

theorem grown_add (j : Journal) {entry : Entry} (ofKind : kind entry) : Grown kind j (j.add entry) :=
  ⟨[entry], by simp [add], by simpa using ofKind⟩

theorem toList_noteAll (j : Journal) (notices : List Notice) :
    (j.noteAll notices).toList = j.toList ++ notices.map .notice := by
  induction notices generalizing j with
  | nil => simp [noteAll]
  | cons notice notices ih =>
    have first : (j.noteAll (notice :: notices)).toList = ((j.note notice).noteAll notices).toList := rfl
    rw [first, ih]
    simp [note]

theorem silently_noteAll (j : Journal) (notices : List Notice) : j.Silently (j.noteAll notices) :=
  ⟨_, toList_noteAll j notices, by simp [Entry.isSilent, Entry.isQuiet, Entry.beeper?]⟩

theorem silently_note (j : Journal) (notice : Notice) : j.Silently (j.note notice) :=
  j.silently_noteAll [notice]

theorem Silently.quietly (silently : j.Silently k) : j.Quietly k := by
  obtain ⟨more, grown, silent⟩ := silently
  exact ⟨more, grown, fun entry among => (Entry.isSilent_iff.mp (silent entry among)).1⟩

theorem Silently.beeperCalls (silently : j.Silently k) : k.beeperCalls = j.beeperCalls :=
  Grown.filterMap_eq silently fun _ silent => (Entry.isSilent_iff.mp silent).2

theorem Quietly.refreshes (quietly : j.Quietly k) : k.refreshes = j.refreshes :=
  Grown.countP_eq quietly fun _ quiet => (Entry.isQuiet_iff.mp quiet).2

theorem Quietly.count (quietly : j.Quietly k) {call : Call} (run : call.isRun) :
    k.calls.count call = j.calls.count call := by
  rw [calls, calls, List.count_filterMap, List.count_filterMap]
  refine Grown.countP_eq quietly fun entry quiet => ?_
  -- An entry of this call would not be quiet.
  by_contra called
  have same : entry = .call call := by cases entry <;> simp_all
  simp [same, run, Entry.isQuiet] at quiet

/-! ## Running and showing the machine -/

/-- The machine was run by a call, and shown. -/
def Shown (call : Call) (j k : Journal) : Prop :=
  ∃ notices : List Notice, k.toList = j.toList ++ .call call :: (notices.map .notice ++ [.refresh])

theorem Shown.refreshes {call : Call} (shown : j.Shown call k) : k.refreshes = j.refreshes + 1 := by
  obtain ⟨notices, grown⟩ := shown
  have silent : notices.countP (Entry.isRefresh ∘ .notice) = 0 := by simp [List.countP_eq_zero]
  rw [Journal.refreshes, grown]
  simp [List.countP_cons, List.countP_map, silent, Journal.refreshes]

theorem Shown.calls {call : Call} (shown : j.Shown call k) : k.calls = j.calls ++ [call] := by
  obtain ⟨notices, grown⟩ := shown
  have silent : notices.filterMap (Entry.call? ∘ .notice) = [] := by simp [List.filterMap_eq_nil_iff]
  rw [Journal.calls, grown]
  simp [List.filterMap_map, silent, Journal.calls]

theorem Shown.beeperCalls {call : Call} (shown : j.Shown call k) : k.beeperCalls = j.beeperCalls := by
  obtain ⟨notices, grown⟩ := shown
  have none : ∀ entry ∈ Entry.call call :: (notices.map .notice ++ [.refresh]), entry.beeper? = none := by
    intro entry among
    simp only [List.mem_cons, List.mem_append, List.mem_map, List.not_mem_nil, or_false] at among
    rcases among with rfl | ⟨notice, -, rfl⟩ | rfl <;> rfl
  rw [Journal.beeperCalls, grown, List.filterMap_append, List.filterMap_eq_nil_iff.mpr none, List.append_nil,
    Journal.beeperCalls]

end Journal

/-! ## What the parts of the console add -/

namespace Rig

variable {σ : Type} (rig : Rig σ)

theorem silently_note (notice : Notice) : rig.journal.Silently (rig.note notice).journal :=
  rig.journal.silently_note notice

theorem silently_noteAll (notices : List Notice) : rig.journal.Silently (rig.noteAll notices).journal :=
  rig.journal.silently_noteAll notices

theorem silently_ask {call : Call} (other : call.isRun = false) (act : σ → σ) :
    rig.journal.Silently (rig.ask call act).journal :=
  rig.journal.grown_add (Entry.isSilent_call other)

theorem silently_startFetch (fetcher : Fetcher) (locator : String) :
    rig.journal.Silently (rig.startFetch fetcher locator).1.journal :=
  rig.journal.grown_add rfl

/-- The machine is run, what went wrong is noted, and the machine is shown. -/
theorem shown_run {ν : Type} [View ν σ] (call : Call) (act : σ → σ × Option Failure) (notices : List Notice)
    (view : ν) : ∃ j, rig.journal.Shown call j ∧
      j.Silently ((((rig.run call act).1.noteAll notices).show view).1.journal) := by
  refine ⟨_, ⟨notices, ?_⟩, Journal.silently_noteAll _ _⟩
  simp [Journal.add, noteAll, Journal.toList_noteAll, run]

variable [Machine σ]

theorem silently_foldl_release (lines : List UInt8) :
    rig.journal.Silently (lines.foldl release rig).journal := by
  induction lines generalizing rig with
  | nil => exact .refl _
  | cons line lines ih => exact (rig.silently_ask rfl _).trans (ih (rig.release line))

end Rig

theorem Router.silently_edge {σ : Type} [Machine σ] (r : Router) (edge : KeyEdge) (rig : Rig σ) :
    rig.journal.Silently (r.edge edge rig).1.journal := by
  rw [Router.edge_eq]
  cases edge with
  | down key =>
    dsimp only
    cases r.lookup key with
    | none => exact .refl _
    | some line => exact rig.silently_ask rfl (Machine.press · line.number)
  | up key =>
    dsimp only
    cases r.lookup key with
    | none => exact .refl _
    | some line => exact rig.silently_ask rfl (Machine.release · line.number)

theorem ToneGate.quietly_update {δ : Type} [Beeper δ] (gate : ToneGate δ) (active : Bool) (j : Journal) :
    j.Quietly (gate.update active j).2 := by
  unfold update
  split
  · exact .refl j
  · cases gate.device with
    | none => exact .refl j
    | some device => exact (j.grown_add rfl).trans (Journal.silently_noteAll _ _).quietly

namespace Session

variable {σ : Type} [Machine σ] (s : Session σ)

theorem silently_send (index : Nat) (program : Program) :
    s.rig.journal.Silently (s.send index program).rig.journal :=
  (s.rig.silently_ask rfl _).trans ((Rig.silently_note _ _).trans (Rig.silently_startFetch _ _ _))

theorem silently_select (index : Nat) : s.rig.journal.Silently (s.select index).1.rig.journal := by
  unfold select
  split
  · exact s.rig.silently_note _
  · cases s.loader.catalog.get? index with
    | none => exact .refl _
    | some program => exact s.silently_send index program

theorem silently_finish (program : Program) (bytes : List UInt8) :
    s.rig.journal.Silently (s.finish program bytes).rig.journal := by
  have loaded : s.rig.journal.Silently (s.rig.load bytes).journal := s.rig.silently_ask rfl _
  have started := (s.rig.load bytes).silently_noteAll s.scheduler.start.2
  have released := ((s.rig.load bytes).noteAll s.scheduler.start.2).silently_foldl_release Rig.allLines
  exact loaded.trans (started.trans (released.trans
    ((Rig.silently_noteAll _ _).trans (Rig.silently_note _ _))))

theorem silently_poll : s.rig.journal.Silently s.poll.1.rig.journal := by
  rcases s.poll_cases with ⟨same, -⟩ | ⟨ticket, -, ⟨bytes, after, -⟩ | ⟨failure, after, -⟩⟩
  · rw [same]
    exact .refl _
  · rw [after]
    exact (s.close ticket).silently_finish _ _
  · rw [after]
    exact (s.close ticket).rig.silently_note _

end Session

namespace Console

variable {σ δ : Type} [Machine σ]

theorem silently_pollLoad (c : Console σ δ) :
    c.session.rig.journal.Silently c.pollLoad.session.rig.journal := by
  rcases c.pollLoad_cases with polled | ⟨notice, polled⟩
  · rw [polled]
    exact c.session.silently_poll
  · rw [polled]
    exact c.session.silently_poll.trans (Rig.silently_note _ _)

theorem shown_framed (c : Console σ δ) (pacer : Pacer Float) :
    ∃ j, c.session.rig.journal.Shown .cycle j ∧ j.Silently (c.framed pacer).session.rig.journal :=
  c.session.rig.shown_run .cycle Machine.runCycle
    (c.session.rig.runCycle.2.toList.map (.cycleFailed c.session.scheduler.cycles)) (c.screen, c.session.panel)

theorem shown_instructed (c : Console σ δ) :
    ∃ j, c.session.rig.journal.Shown .opCode j ∧ j.Silently c.instructed.session.rig.journal :=
  c.session.rig.shown_run .opCode Machine.runOpCode (c.session.rig.runOpCode.2.toList.map .stepFailed)
    (c.screen, c.session.panel)

end Console

end Chip8Console
