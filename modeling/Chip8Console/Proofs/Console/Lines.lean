import Chip8Console.Proofs.Console.Paired
import Chip8Console.Proofs.Console.Panel
import Mathlib.Data.List.Nodup

/-! # Lines that are held

No line of the keypad gets stuck, whatever is done with keys and programs.  `LinesHeld` is exact: a line is
held if and only if, of all edges since the last load whose key is on the line, the latest is a key going
down.  `lines_held_by_keys` says what that comes to for single keys.
-/

namespace Chip8Console

/-! ## Calls that move lines -/

namespace Call

/-- The line has been pressed since it was last released. -/
def Held (calls : List Call) (line : UInt8) : Prop :=
  .press line ∈ sinceLast (· = .release line) calls

theorem held_concat (calls : List Call) (call : Call) (line : UInt8) :
    Held (calls ++ [call]) line ↔ call ≠ .release line ∧ (Held calls line ∨ .press line = call) := by
  rw [Held, sinceLast_concat]
  by_cases released : call = .release line
  · simp [released]
  · simp [released, Held]

theorem held_append_of_noLine {calls more : List Call} (noLine : ∀ call ∈ more, call.line? = none)
    (line : UInt8) : Held (calls ++ more) line ↔ Held calls line := by
  have noRelease : ∀ call ∈ more, decide (call = .release line) = false := by
    intro call among
    refine decide_eq_false ?_
    rintro rfl
    cases noLine _ among
  have noPress : .press line ∉ more := fun among => nomatch noLine _ among
  rw [Held, sinceLast_append _ noRelease, List.mem_append, or_iff_left noPress, Held]

theorem held_releases (calls : List Call) (lines : List UInt8) (line : UInt8) :
    Held (calls ++ lines.map .release) line ↔ Held calls line ∧ line ∉ lines := by
  induction lines generalizing calls with
  | nil => simp
  | cons first lines ih =>
    rw [List.map_cons, List.append_cons, ih, held_concat]
    simp only [ne_eq, Call.release.injEq, reduceCtorEq, or_false, List.mem_cons, not_or]
    rw [eq_comm, and_comm (a := ¬ line = first), and_assoc]

end Call

theorem Rig.mem_allLines {line : UInt8} (inside : line.toNat < keypadLines) : line ∈ Rig.allLines :=
  List.mem_map.mpr ⟨line.toNat, List.mem_range.mpr inside, UInt8.ofNat_toNat⟩

def Router.numberOf? (r : Router) (key : HostKey) : Option UInt8 :=
  (r.lookup key).map (·.number)

theorem Router.mem_allLines_of_numberOf? {r : Router} {key : HostKey} {line : UInt8}
    (mapped : r.numberOf? key = some line) : line ∈ Rig.allLines := by
  obtain ⟨keyLine, -, rfl⟩ := Option.map_eq_some_iff.mp mapped
  exact Rig.mem_allLines keyLine.number_lt

theorem Router.mem_table_of_numberOf? {r : Router} {key : HostKey} {line : UInt8}
    (mapped : r.numberOf? key = some line) : ∃ entry ∈ r.table, entry.1 = key ∧ entry.2.number = line := by
  obtain ⟨keyLine, found, number⟩ := Option.map_eq_some_iff.mp mapped
  obtain ⟨before, after, split, -⟩ := List.lookup_eq_some_iff.mp found
  exact ⟨(key, keyLine), by rw [split]; exact List.mem_append_right _ List.mem_cons_self, rfl, number⟩

/-- If the entries of a table are on different lines, no two keys share one. -/
theorem Router.alone_of_nodup {r : Router} (different : (r.table.map (·.2.number)).Nodup) {key other : HostKey}
    {line : UInt8} (here : r.numberOf? key = some line) (there : r.numberOf? other = some line) : key = other := by
  obtain ⟨entry, listed, rfl, number⟩ := mem_table_of_numberOf? here
  obtain ⟨entry', listed', rfl, number'⟩ := mem_table_of_numberOf? there
  have same : entry = entry' := List.inj_on_of_nodup_map different listed listed' (number.trans number'.symm)
  rw [same]

/-! ## The latest edge -/

namespace Happening

variable {σ : Type}

/-- The latest edge of a key with the property. -/
def lastEdge? (p : HostKey → Bool) (history : List (Happening σ)) : Option KeyEdge :=
  ((history.filterMap edge?).filter (p ·.key)).getLast?

variable {p q : HostKey → Bool} {history more : List (Happening σ)} {edge : KeyEdge}

theorem lastEdge?_concat (history : List (Happening σ)) (edge : KeyEdge) :
    lastEdge? p (history ++ [.edge edge]) = if p edge.key then some edge else lastEdge? p history := by
  cases has : p edge.key <;> simp [lastEdge?, edge?, has]

theorem lastEdge?_append_of_none (none : ∀ happening ∈ more, happening.edge? = Option.none) :
    lastEdge? p (history ++ more) = lastEdge? p history := by
  rw [lastEdge?, List.filterMap_append, List.filterMap_eq_nil_iff.mpr none, List.append_nil, lastEdge?]

theorem key_of_lastEdge? (last : lastEdge? p history = some edge) : p edge.key :=
  (List.mem_filter.mp (List.mem_of_getLast? last)).2

theorem mem_of_lastEdge? (last : lastEdge? p history = some edge) : .edge edge ∈ history := by
  obtain ⟨happening, among, isEdge⟩ :=
    List.mem_filterMap.mp (List.mem_filter.mp (List.mem_of_getLast? last)).1
  cases happening <;> simp [edge?] at isEdge
  rwa [← isEdge]

/-- The latest edge of many keys is the latest of its own key. -/
theorem lastEdge?_of_imp (last : lastEdge? p history = some edge) (has : q edge.key)
    (imp : ∀ key, q key → p key) : lastEdge? q history = some edge := by
  obtain ⟨earlier, split⟩ := List.getLast?_eq_some_iff.mp last
  have both : (history.filterMap edge?).filter (q ·.key) =
      ((history.filterMap edge?).filter (p ·.key)).filter (q ·.key) := by
    rw [List.filter_filter]
    congr 1
    funext e
    cases has : q e.key with
    | false => rfl
    | true => simp [imp e.key has]
  rw [lastEdge?, both, split, List.filter_append]
  simp [has]

/-- What comes before does not matter to the latest edge. -/
theorem lastEdge?_of_suffix (suffix : more <:+ history) (last : lastEdge? p more = some edge) :
    lastEdge? p history = some edge := by
  obtain ⟨before, rfl⟩ := suffix
  rw [lastEdge?, List.filterMap_append, List.filter_append, List.getLast?_append]
  rw [lastEdge?] at last
  rw [last]
  rfl

end Happening

open Happening (lastEdge? sinceLoad)

namespace Session

variable {σ : Type}

/-- A line is held if the latest edge of the keys on it, since the last load, went down. -/
def LinesHeld (history : List (Happening σ)) (s : Session σ) : Prop :=
  ∀ line, Call.Held s.rig.journal.calls line ↔
    ∃ key, lastEdge? (s.router.numberOf? · = some line) (sinceLoad history) = some (.down key)

namespace LinesHeld

variable {history happenings : List (Happening σ)} {s t : Session σ}

theorem aside {calls : List Call} (h : LinesHeld history s) (aside : s.Aside t calls)
    (noLine : ∀ call ∈ calls, call.line? = none) : LinesHeld history t := by
  intro line
  rw [aside.calls, aside.router, Call.held_append_of_noLine noLine]
  exact h line

theorem pass (h : LinesHeld history s) (noLoad : ∀ happening ∈ happenings, happening.isLoaded = false)
    (noEdge : ∀ happening ∈ happenings, happening.edge? = none) : LinesHeld (history ++ happenings) s := by
  intro line
  rw [sinceLoad, sinceLast_append _ noLoad, Happening.lastEdge?_append_of_none noEdge]
  exact h line

theorem incidental (h : LinesHeld history s)
    (incidental : ∀ happening ∈ happenings, happening.Incidental) : LinesHeld (history ++ happenings) s :=
  h.pass (fun happening among => (incidental happening among).isLoaded_eq)
    fun happening among => (incidental happening among).edge?_eq

theorem fail (h : LinesHeld history s) (ticket : Nat) (failure : Failure) :
    LinesHeld (history ++ [.failed s.loader.current failure]) ((s.close ticket).fail failure) := by
  have calls : ((s.close ticket).fail failure).rig.journal.calls = s.rig.journal.calls := calls_fail _ _
  intro line
  rw [calls]
  exact h.pass (by simp [Happening.isLoaded]) (by simp [Happening.edge?]) line

variable [Machine σ]

theorem send (h : LinesHeld history s) (index : Nat) (program : Program) :
    LinesHeld (history ++ [.sent index]) (s.send index program) := by
  have calls : (s.send index program).rig.journal.calls = s.rig.journal.calls ++ [.reset] :=
    calls_send s index program
  intro line
  rw [calls, Call.held_append_of_noLine (by simp [Call.line?])]
  exact h.pass (by simp [Happening.isLoaded]) (by simp [Happening.edge?]) line

/-- With a load all lines come up, and keys have to go down anew. -/
theorem load (h : LinesHeld history s) (ticket : Nat) (bytes : List UInt8) :
    LinesHeld (history ++ [.loaded s.loader.current])
      ((s.close ticket).finish s.loader.program bytes) := by
  have calls : ((s.close ticket).finish s.loader.program bytes).rig.journal.calls =
      s.rig.journal.calls ++ [.load bytes] ++ Rig.allLines.map .release := by
    rw [List.append_assoc]
    exact calls_finish _ _ _
  intro line
  rw [calls, Call.held_releases, Call.held_append_of_noLine (by simp [Call.line?])]
  refine iff_of_false ?_ ?_
  -- A line that was held belongs to a key, so it is on the keypad and has come up.
  · rintro ⟨held, offKeypad⟩
    obtain ⟨key, last⟩ := (h line).mp held
    exact offKeypad (Router.mem_allLines_of_numberOf? (of_decide_eq_true (Happening.key_of_lastEdge? last)))
  · rintro ⟨key, last⟩
    rw [sinceLoad, sinceLast_concat] at last
    cases last

omit [Machine σ] in
theorem edge (h : LinesHeld history s) (edge : KeyEdge)
    (aside : s.Aside t (s.router.callOf edge).toList) : LinesHeld (history ++ [.edge edge]) t := by
  intro line
  have since : sinceLoad (history ++ [.edge edge]) = sinceLoad history ++ [.edge edge] :=
    sinceLast_append _ (by simp [Happening.isLoaded])
  rw [since, Happening.lastEdge?_concat, aside.calls, aside.router]
  cases edge with
  | down key =>
    cases mapped : s.router.lookup key with
    | none => simpa [Router.callOf, Router.numberOf?, KeyEdge.key, mapped] using h line
    | some keyLine =>
      -- For a key on another line both sides are as before.
      by_cases same : keyLine.number = line
      · simp [Router.callOf, Router.numberOf?, KeyEdge.key, mapped, same, Call.held_concat]
      · simpa [Router.callOf, Router.numberOf?, KeyEdge.key, mapped, same, Ne.symm same, Call.held_concat]
          using h line
  | up key =>
    cases mapped : s.router.lookup key with
    | none => simpa [Router.callOf, Router.numberOf?, KeyEdge.key, mapped] using h line
    | some keyLine =>
      by_cases same : keyLine.number = line
      · simp [Router.callOf, Router.numberOf?, KeyEdge.key, mapped, same, Call.held_concat]
      · simpa [Router.callOf, Router.numberOf?, KeyEdge.key, mapped, same, Call.held_concat] using h line

theorem change (h : LinesHeld history s) (change : Change s t happenings) :
    LinesHeld (history ++ happenings) t := by
  cases change with
  | aside aside noLine incidental => exact (h.aside aside noLine).incidental incidental
  | edge edge aside => exact h.edge edge aside
  | send listed => exact h.send _ _
  | load _ bytes => exact h.load _ bytes
  | fail _ failure => exact h.fail _ failure

omit [Machine σ] in
theorem new (machine : σ) (frameRate : Float) (fetcher : Fetcher) (catalog : Catalog) :
    LinesHeld [] (Session.new machine frameRate fetcher catalog) := by
  intro line
  simp [Session.new, Call.Held, Journal.calls, sinceLoad, lastEdge?]

omit [Machine σ] in
theorem held_by_key (h : LinesHeld history s) {line : UInt8} (held : Call.Held s.rig.journal.calls line) :
    ∃ key, s.router.numberOf? key = some line ∧
      lastEdge? (· = key) (sinceLoad history) = some (.down key) := by
  obtain ⟨key, last⟩ := (h line).mp held
  have mapped : s.router.numberOf? key = some line :=
    of_decide_eq_true (Happening.key_of_lastEdge? last)
  refine ⟨key, mapped, Happening.lastEdge?_of_imp last (decide_eq_true rfl) fun other same => ?_⟩
  rw [of_decide_eq_true same]
  exact decide_eq_true mapped

omit [Machine σ] in
theorem held_of_alone (h : LinesHeld history s) {key : HostKey} {line : UInt8}
    (mapped : s.router.numberOf? key = some line)
    (alone : ∀ other, s.router.numberOf? other = some line → other = key)
    (down : lastEdge? (· = key) (sinceLoad history) = some (.down key)) :
    Call.Held s.rig.journal.calls line := by
  refine (h line).mpr ⟨key, Happening.lastEdge?_of_imp down (decide_eq_true mapped) fun other onLine => ?_⟩
  exact decide_eq_true (alone other (of_decide_eq_true onLine))

end LinesHeld

/-- Keys are mapped only once a program was loaded. -/
theorem InStep.loaded_of_lookup {catalog : Catalog} {history : List (Happening σ)} {s : Session σ}
    (i : InStep catalog history s) {key : HostKey} {line : KeyLine}
    (mapped : s.router.lookup key = some line) : ∃ index, .loaded index ∈ history := by
  rw [i.lookup] at mapped
  cases last : (history.filterMap Happening.loaded?).getLast? with
  | none => simp [Happening.installed, last, KeyMapping.lineOf?] at mapped
  | some index =>
    obtain ⟨happening, among, loaded⟩ := List.mem_filterMap.mp (List.mem_of_getLast? last)
    cases happening <;> simp only [Happening.loaded?, reduceCtorEq] at loaded
    exact ⟨_, among⟩

end Session

/-- A held line is held by a key that went down after the last load and has not come up since; and if
no two keys share a line, each such key holds its line. -/
theorem lines_held_by_keys {σ δ : Type} [Machine σ] [Beeper δ] (machine : σ) (frameRate : Float)
    (fetcher : Fetcher) (catalog : Catalog) (screen : Screen) (tone : ToneGate δ)
    (actions : List Action) :
    let c : Console σ δ := { session := .new machine frameRate fetcher catalog, screen, tone }
    let s := (c.run actions).session
    let history := c.history actions
    let Held := Call.Held s.rig.journal.calls
    -- The machine is what these calls have made of it.
    s.rig.machine = Machine.after machine s.rig.journal.calls ∧
    (∀ line, Held line → (∃ index, .loaded index ∈ history) ∧
      ∃ key, s.router.numberOf? key = some line ∧ lastEdge? (· = key) history = some (.down key) ∧
        lastEdge? (· = key) (sinceLoad history) = some (.down key)) ∧
    -- So none is held right after a load, or when all keys are up.
    ((∀ edge, .edge edge ∉ sinceLoad history) → ∀ line, ¬ Held line) ∧
    ((∀ key, lastEdge? (· = key) history ≠ some (.down key)) → ∀ line, ¬ Held line) ∧
    ((∀ key other line, s.router.numberOf? key = some line → s.router.numberOf? other = some line →
        key = other) →
      ∀ key line, s.router.numberOf? key = some line →
        lastEdge? (· = key) (sinceLoad history) = some (.down key) → Held line) := by
  intro c s history Held
  have exactly : Session.LinesHeld history s :=
    c.history_induction (P := Session.LinesHeld) (fun _ _ _ _ h change => h.change change)
      (.new machine frameRate fetcher catalog) actions
  have inStep : Session.InStep catalog history s :=
    c.history_induction (P := Session.InStep catalog) (fun _ _ _ _ i change => i.change change)
      (.new machine frameRate fetcher catalog) actions
  have byKey : ∀ line, Held line → (∃ index, .loaded index ∈ history) ∧
      ∃ key, s.router.numberOf? key = some line ∧ lastEdge? (· = key) history = some (.down key) ∧
        lastEdge? (· = key) (sinceLoad history) = some (.down key) := by
    intro line held
    obtain ⟨key, mapped, down⟩ := exactly.held_by_key held
    obtain ⟨keyLine, found, -⟩ := Option.map_eq_some_iff.mp mapped
    exact ⟨inStep.loaded_of_lookup found, key, mapped,
      Happening.lastEdge?_of_suffix (sinceLast_suffix _ history) down, down⟩
  refine ⟨(Console.replay_run rfl actions).1, byKey, ?_, ?_, ?_⟩
  · intro untouched line held
    obtain ⟨-, key, -, -, down⟩ := byKey line held
    exact untouched _ (Happening.mem_of_lastEdge? down)
  · intro allUp line held
    obtain ⟨-, key, -, down, -⟩ := byKey line held
    exact allUp key down
  · intro alone key line mapped down
    exact exactly.held_of_alone mapped (fun other onLine => alone other key line onLine mapped) down

/-- A key goes down, and the next program is asked for.  Its line is held until that program has come; then all lines
are up, although the key is still down. -/
theorem line_held_until_next_load :
    let c : Console Puppet Unit :=
      { session := .new {} 60 .promised .builtin
        screen := .new { resolution := {}, foreground := ⟨255, 255, 255⟩ }
        tone := .muted }
    let asked : List Action :=
      [.boot, .deliver 0 (.ok [0x12]), .tick 0, .event (.key (.down ⟨81⟩)), .event .nextProgram]
    let loaded := asked ++ [.deliver 1 (.ok [0x13]), .tick 20]
    (c.run asked).session.loader.program.name = "Pong" ∧
      Call.Held (c.run asked).session.rig.journal.calls 4 ∧
      (∀ line, ¬ Call.Held (c.run loaded).session.rig.journal.calls line) ∧
      lastEdge? (· = ⟨81⟩) (c.history loaded) = some (.down ⟨81⟩) := by
  intro c asked loaded
  have named : (c.run asked).session.loader.program.name = "Pong" := by decide +kernel
  have different : ((c.run asked).session.router.table.map (·.2.number)).Nodup := by decide +kernel
  have alone (key other : HostKey) (line : UInt8) : (c.run asked).session.router.numberOf? key = some line →
      (c.run asked).session.router.numberOf? other = some line → key = other := Router.alone_of_nodup different
  have mapped : (c.run asked).session.router.numberOf? ⟨81⟩ = some 4 := by decide +kernel
  have down : lastEdge? (· = ⟨81⟩) (sinceLoad (c.history asked)) = some (.down ⟨81⟩) := by decide +kernel
  have stillDown : lastEdge? (· = ⟨81⟩) (c.history loaded) = some (.down ⟨81⟩) := by decide +kernel
  have noEdge : (sinceLoad (c.history loaded)).all (·.edge?.isNone) := by decide +kernel
  obtain ⟨-, -, -, -, held⟩ := lines_held_by_keys ({} : Puppet) 60 .promised .builtin c.screen c.tone asked
  obtain ⟨-, -, allUp, -⟩ := lines_held_by_keys ({} : Puppet) 60 .promised .builtin c.screen c.tone loaded
  have noneDown : ∀ edge, .edge edge ∉ sinceLoad (c.history loaded) := by
    intro edge among
    simpa [Happening.edge?] using List.all_eq_true.mp noEdge _ among
  -- Both consoles are the same as they stand; their runs need not be evaluated to see it.
  with_reducible exact ⟨named, held alone ⟨81⟩ 4 mapped down, allUp noneDown, stillDown⟩

end Chip8Console
