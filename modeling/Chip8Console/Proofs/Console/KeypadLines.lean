import Chip8Console.Machine.Puppet
import Chip8Console.Proofs.Catalog.Lines
import Chip8Console.Proofs.Console.Panel

/-! # The lines that the machine is asked to move

A line is pressed only if the program that was loaded last maps a key to it, and what the mappings of a catalog say are
lines of the keypad, because no text with another line is read as a catalog (`lines_on_keypad`).
-/

namespace Chip8Console

/-- Some program has a key on the line. -/
def Catalog.Maps (catalog : Catalog) (line : UInt8) : Prop :=
  ∃ p ∈ catalog.programs, ∃ m ∈ p.mappings, m.line.number = line

theorem Catalog.Maps.le {catalog : Catalog} {line : UInt8} (maps : catalog.Maps line) : line.toNat ≤ 15 := by
  obtain ⟨_, -, m, -, rfl⟩ := maps
  exact Nat.le_of_lt_succ m.line.number_lt

theorem Rig.le_of_mem_allLines {line : UInt8} (among : line ∈ allLines) : line.toNat ≤ 15 := by
  obtain ⟨n, inside, rfl⟩ := List.mem_map.mp among
  have below : n < 16 := List.mem_range.mp inside
  rw [UInt8.toNat_ofNat_of_lt' (Nat.lt_trans below (by decide))]
  exact Nat.le_of_lt_succ below

/-- Lines are pressed only if a program has a key on them, and those that come up are lines of the keypad. -/
def Call.Permitted (catalog : Catalog) : Call → Prop
  | .press line => catalog.Maps line
  | .release line => line.toNat ≤ 15
  | _ => True

theorem Call.permitted_of_noLine (catalog : Catalog) {call : Call} (noLine : call.line? = none) :
    call.Permitted catalog := by
  cases call with
  | press line | release line => cases noLine
  | reset | load _ | cycle | opCode => trivial

namespace Session

variable {σ : Type} {catalog : Catalog} {history happenings : List (Happening σ)} {s t : Session σ}

theorem InStep.maps_of_lookup (i : InStep catalog history s) {key : HostKey} {line : KeyLine}
    (mapped : s.router.lookup key = some line) : catalog.Maps line.number := by
  rw [i.lookup] at mapped
  obtain ⟨m, found, rfl⟩ := Option.map_eq_some_iff.mp mapped
  have among := List.mem_of_find?_eq_some found
  unfold Happening.installed at among
  cases last : (history.filterMap Happening.loaded?).getLast?.bind catalog.get? with
  | none =>
    rw [last] at among
    cases among
  | some p =>
    rw [last] at among
    obtain ⟨index, -, listed⟩ := Option.bind_eq_some_iff.mp last
    exact ⟨p, List.mem_of_getElem? listed, m, among, rfl⟩

theorem permitted_callOf (i : InStep catalog history s) (edge : KeyEdge) :
    ∀ call ∈ (s.router.callOf edge).toList, call.Permitted catalog := by
  intro call among
  rw [Option.mem_toList] at among
  cases edge with
  | down key =>
    obtain ⟨line, mapped, rfl⟩ := Option.map_eq_some_iff.mp among
    exact i.maps_of_lookup mapped
  | up key =>
    obtain ⟨line, mapped, rfl⟩ := Option.map_eq_some_iff.mp among
    exact (i.maps_of_lookup mapped).le

theorem permitted_append {calls more : List Call} (grown : t.rig.journal.calls = calls ++ more)
    (permitted : ∀ call ∈ calls, call.Permitted catalog) (also : ∀ call ∈ more, call.Permitted catalog) :
    ∀ call ∈ t.rig.journal.calls, call.Permitted catalog := by
  rw [grown, List.forall_mem_append]
  exact ⟨permitted, also⟩

/-- In step with its history, a session moves no other lines. -/
theorem permitted_change [Machine σ] (i : InStep catalog history s)
    (permitted : ∀ call ∈ s.rig.journal.calls, call.Permitted catalog) (change : Change s t happenings) :
    ∀ call ∈ t.rig.journal.calls, call.Permitted catalog := by
  cases change with
  | aside aside noLine =>
    exact permitted_append aside.calls permitted fun call among => call.permitted_of_noLine catalog (noLine call among)
  | edge edge aside => exact permitted_append aside.calls permitted (permitted_callOf i edge)
  | send => exact permitted_append (calls_send _ _ _) permitted (by simp [Call.Permitted])
  | load pending bytes =>
    refine permitted_append (calls_finish _ _ _) permitted ?_
    rw [List.forall_mem_cons, List.forall_mem_map]
    exact ⟨trivial, fun line among => Rig.le_of_mem_allLines among⟩
  | fail pending failure =>
    rw [calls_fail]
    exact permitted

end Session

/-- A text with a line off the keypad is refused as a whole.  Whatever is accepted is a catalog of at least one program
with lines of the keypad only, and no others ever reach the machine. -/
theorem lines_on_keypad {σ δ : Type} [Machine σ] [Beeper δ] (text : String) :
    (∀ written, Json.parse (Json.readList Program.Written.record.read) text = .ok written →
      (written = [] ∨ ∃ p ∈ written, ∃ m ∈ p.mappings, ¬ m.OnKeypad) → ∃ failure, Catalog.ofJson text = .error failure) ∧
    ∀ catalog, Catalog.ofJson text = .ok catalog →
      Json.parse (Json.readList Program.Written.record.read) text = .ok (catalog.programs.map Program.written) ∧
      catalog.programs ≠ [] ∧ (∀ p ∈ catalog.programs, ∀ m ∈ p.mappings, m.line.number.toNat ≤ 15) ∧
      ∀ (machine : σ) (frameRate : Float) (fetcher : Fetcher) (screen : Screen) (tone : ToneGate δ) (actions : List Action),
        let c : Console σ δ := { session := .new machine frameRate fetcher catalog, screen, tone }
        let calls := (c.run actions).session.rig.journal.calls
        (∀ line, .press line ∈ calls → line.toNat ≤ 15 ∧ ∃ p ∈ catalog.programs, ∃ m ∈ p.mappings, m.line.number = line) ∧
        ∀ line, .release line ∈ calls → line.toNat ≤ 15 := by
  constructor
  · intro written read wrong
    exact Catalog.ofJson_eq_error read wrong
  · intro catalog accepted
    refine ⟨Catalog.ofJson_eq_ok_iff.mp accepted, List.cons_ne_nil _ _, ?_, ?_⟩
    · intro p listed m mapped
      exact Nat.le_of_lt_succ m.line.number_lt
    · intro machine frameRate fetcher screen tone actions c calls
      -- What may be pressed is known from the table, and the table from the loads.
      have start : Session.InStep catalog [] c.session ∧ ∀ call ∈ c.session.rig.journal.calls, call.Permitted catalog :=
        ⟨.new machine frameRate fetcher catalog, nofun⟩
      have permitted : ∀ call ∈ calls, call.Permitted catalog :=
        (c.history_induction
          (P := fun past s => Session.InStep catalog past s ∧ ∀ call ∈ s.rig.journal.calls, call.Permitted catalog)
          (fun _ _ _ _ ⟨i, permitted⟩ change => ⟨i.change change, Session.permitted_change i permitted change⟩) start
          actions).2
      constructor
      · intro line pressed
        have maps : catalog.Maps line := permitted _ pressed
        exact ⟨maps.le, maps⟩
      · intro line released
        exact permitted _ released

/-- A catalog with a key on the last line, which is pressed and comes up, and the same text with the number after it. -/
theorem lines_on_keypad_at_last_line :
    let catalog : Catalog := ⟨⟨"A", "A.ch8", [Catalog.bind 81 15 "Q"]⟩, []⟩
    let c : Console Puppet Unit :=
      { session := .new {} 60 .promised catalog
        screen := .new { resolution := {}, foreground := ⟨255, 255, 255⟩ }
        tone := .muted }
    let calls := (c.run [.boot, .deliver 0 (.ok [0x12]), .tick 0, .event (.key (.down ⟨81⟩)),
      .event (.key (.up ⟨81⟩))]).session.rig.journal.calls
    Catalog.ofJson "[[\"A\",\"A.ch8\",[[81,15,\"Q\"]]]]" = .ok catalog ∧
      (.press 15 ∈ calls ∧ ∃ p ∈ catalog.programs, ∃ m ∈ p.mappings, m.line.number = 15) ∧
      (∃ p : Program.Written, Json.parse (Json.readList Program.Written.record.read)
          "[[\"A\",\"A.ch8\",[[81,16,\"Q\"]]]]" = .ok [p] ∧ ∃ m ∈ p.mappings, ¬ m.OnKeypad) ∧
      ∃ failure, Catalog.ofJson "[[\"A\",\"A.ch8\",[[81,16,\"Q\"]]]]" = .error failure := by
  have accepted : Catalog.ofJson "[[\"A\",\"A.ch8\",[[81,15,\"Q\"]]]]" =
      .ok ⟨⟨"A", "A.ch8", [Catalog.bind 81 15 "Q"]⟩, []⟩ := by rfl
  have read : Json.parse (Json.readList Program.Written.record.read) "[[\"A\",\"A.ch8\",[[81,16,\"Q\"]]]]" =
      .ok [⟨"A", "A.ch8", [⟨⟨81⟩, .integer 16, "Q"⟩]⟩] := by rfl
  have off : ¬ (⟨⟨81⟩, .integer 16, "Q"⟩ : KeyMapping.Written).OnKeypad := by
    rintro ⟨n, inside, same⟩
    have sixteen : (16 : Int) = n := Json.Head.integer.inj same
    unfold keypadLines at inside
    omega
  intro catalog c calls
  have pressed : .press 15 ∈ calls := by decide +kernel
  obtain ⟨-, -, -, run⟩ := (lines_on_keypad (σ := Puppet) (δ := Unit) _).2 catalog accepted
  have rejected := (lines_on_keypad (σ := Puppet) (δ := Unit) _).1 _ read
    (.inr ⟨_, List.mem_singleton_self _, _, List.mem_singleton_self _, off⟩)
  exact ⟨accepted, ⟨pressed, ((run c.session.rig.machine 60 .promised c.screen c.tone _).1 15 pressed).2⟩,
    ⟨_, read, _, List.mem_singleton_self _, off⟩, rejected⟩

end Chip8Console
