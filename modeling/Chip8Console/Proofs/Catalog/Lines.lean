import Chip8Console.Catalog.Document
import Chip8Console.Proofs.Json.Widening

/-! # Lines as they are written

The line of a mapping may be written as any number; it is a line of the keypad only if it is a whole number below
sixteen.  To say what becomes of the others, mappings and programs are also read as they are written, without a look at
their lines (`KeyMapping.Written`, `Program.Written`).  A text is that of a catalog just if what is written are the
programs of the catalog (`Catalog.ofJson_eq_ok_iff`), and so one wrong line is enough to refuse it.
-/

namespace Chip8Console

open Json (Head)

/-- Reads any number, as it is written. -/
def Json.readNumeral (cs : List Char) : Except Fault (Head × List Char) := do
  let (head, rest) ← readHead .thorough cs
  match head with
  | .integer value => return (.integer value, rest)
  | .double value => return (.double value, rest)
  | found => throw (.wrongType found "a number")

/-- A mapping as it is written, with any number for its line. -/
structure KeyMapping.Written where
  key : HostKey
  line : Head
  description : String

namespace KeyMapping.Written

structure Draft where
  key : Option HostKey := none
  line : Option Head := none
  description : Option String := none

def Draft.build (d : Draft) : Except Nat Written :=
  match d.key, d.line, d.description with
  | some key, some line, some description => .ok { key, line, description }
  | none, _, _ => .error 0
  | _, none, _ => .error 1
  | _, _, none => .error 2

def record : Json.Record Draft Written where
  title := KeyMapping.record.title
  fields := [
    { name := "key"
      given := fun d => d.key.isSome
      read := fun d cs => do
        let (key, rest) ← HostKey.read cs
        return ({ d with key := some key }, rest) },
    { name := "line"
      given := fun d => d.line.isSome
      read := fun d cs => do
        let (line, rest) ← Json.readNumeral cs
        return ({ d with line := some line }, rest) },
    { name := "description"
      given := fun d => d.description.isSome
      read := fun d cs => do
        let (description, rest) ← Json.readString cs
        return ({ d with description := some description }, rest) }]
  blank := {}
  build := Draft.build

/-- The number is that of a line. -/
def OnKeypad (m : Written) : Prop :=
  ∃ n < keypadLines, m.line = .integer n

end KeyMapping.Written

/-- A program as it is written, with any numbers for the lines of its mappings. -/
structure Program.Written where
  name : String
  locator : String
  mappings : List KeyMapping.Written

namespace Program.Written

structure Draft where
  name : Option String := none
  locator : Option String := none
  mappings : Option (List KeyMapping.Written) := none

def Draft.build (d : Draft) : Except Nat Written :=
  match d.name, d.locator with
  | some name, some locator => .ok { name, locator, mappings := d.mappings.getD [] }
  | none, _ => .error 0
  | _, none => .error 1

def record : Json.Record Draft Written where
  title := Program.record.title
  fields := [
    { name := "name"
      given := fun d => d.name.isSome
      read := fun d cs => do
        let (name, rest) ← Json.readString cs
        return ({ d with name := some name }, rest) },
    { name := "locator"
      given := fun d => d.locator.isSome
      read := fun d cs => do
        let (locator, rest) ← Json.readString cs
        return ({ d with locator := some locator }, rest) },
    { name := "key_mappings"
      given := fun d => d.mappings.isSome
      read := fun d cs => do
        let (mappings, rest) ← Json.readList KeyMapping.Written.record.read cs
        return ({ d with mappings := some mappings }, rest) }]
  blank := {}
  build := Draft.build

end Program.Written

/-! ## Lines -/

namespace Json

theorem readNumeral_integer_iff {value : Int} {cs rest : List Char} :
    readNumeral cs = .ok (.integer value, rest) ↔ readHead .thorough cs = .ok (.integer value, rest) := by
  rw [readNumeral, bind_eq_ok_iff]
  constructor
  · rintro ⟨⟨head, after⟩, begins, same⟩
    cases head with
    | integer found =>
      cases same
      exact begins
    | null | boolean _ | double _ | text _ | list | object => cases same
  · intro begins
    exact ⟨_, begins, rfl⟩

theorem readNatBelow_eq_ok_iff {bound n : Nat} {expected : String} {cs rest : List Char} :
    readNatBelow bound expected cs = .ok (n, rest) ↔ n < bound ∧ readHead .thorough cs = .ok (.integer n, rest) := by
  rw [readNatBelow, bind_eq_ok_iff]
  constructor
  · rintro ⟨⟨head, after⟩, begins, made⟩
    cases head with
    | integer value =>
      dsimp only at made
      split at made
      · rename_i inside
        cases made
        rw [Bool.and_eq_true, decide_eq_true_iff, decide_eq_true_iff] at inside
        rw [begins, Int.toNat_of_nonneg inside.1]
        exact ⟨by omega, rfl⟩
      · cases made
    | null | boolean _ | double _ | text _ | list | object => cases made
  · rintro ⟨below, begins⟩
    exact ⟨_, begins, by simp [below, pure, Except.pure]⟩

end Json

theorem KeyLine.ofNumber_eq_ok_iff {n : UInt8} {line : KeyLine} : ofNumber n = .ok line ↔ line.number = n := by
  constructor
  · intro made
    unfold ofNumber at made
    split at made
    · cases made
      rfl
    · cases made
  · rintro rfl
    exact ofNumber_number line

def KeyLine.written (line : KeyLine) : Head :=
  .integer line.number.toNat

theorem KeyLine.written_injective : Function.Injective KeyLine.written := by
  rintro ⟨n, _⟩ ⟨m, _⟩ same
  have numbers : (n.toNat : Int) = m.toNat := Head.integer.inj same
  obtain rfl : n = m := UInt8.toNat_inj.mp (by exact_mod_cast numbers)
  rfl

theorem KeyLine.widens_read : Json.Widens KeyLine.written Json.readNumeral KeyLine.read := by
  intro cs line rest
  rw [written, Json.readNumeral_integer_iff, KeyLine.read, Json.bind_eq_ok_iff]
  constructor
  · rintro ⟨⟨n, after⟩, number, made⟩
    obtain ⟨below, begins⟩ := Json.readNatBelow_eq_ok_iff.mp number
    cases found : ofNumber (UInt8.ofNat n) with
    | ok on =>
      simp only [found] at made
      cases made
      rw [begins, ofNumber_eq_ok_iff.mp found, UInt8.toNat_ofNat_of_lt' below]
    | error failure =>
      simp only [found] at made
      cases made
  · intro begins
    refine ⟨(line.number.toNat, rest), Json.readNatBelow_eq_ok_iff.mpr ⟨line.number.toNat_lt, begins⟩, ?_⟩
    simp [ofNumber_number, pure, Except.pure]

/-! ## Mappings -/

namespace KeyMapping

def written (m : KeyMapping) : Written :=
  ⟨m.key, m.line.written, m.description⟩

theorem written_injective : Function.Injective written := by
  rintro ⟨key, line, description⟩ ⟨key', line', description'⟩ same
  obtain ⟨rfl, lines, rfl⟩ := Written.mk.inj same
  obtain rfl := KeyLine.written_injective lines
  rfl

def Draft.written (d : Draft) : Written.Draft :=
  ⟨d.key, d.line.map KeyLine.written, d.description⟩

theorem Draft.written_injective : Function.Injective Draft.written := by
  rintro ⟨key, line, description⟩ ⟨key', line', description'⟩ same
  obtain ⟨rfl, lines, rfl⟩ := Written.Draft.mk.inj same
  obtain rfl := Option.map_injective KeyLine.written_injective lines
  rfl

/-- The draft with all fields. -/
def full (m : KeyMapping) : Draft :=
  ⟨some m.key, some m.line, some m.description⟩

def Written.full (m : Written) : Draft :=
  ⟨some m.key, some m.line, some m.description⟩

theorem Draft.build_eq_ok_iff {d : Draft} {m : KeyMapping} : d.build = .ok m ↔ d = m.full := by
  constructor
  · intro built
    obtain ⟨_ | key, _ | line, _ | description⟩ := d
    all_goals cases built
    rfl
  · rintro rfl
    rfl

theorem Written.Draft.build_eq_ok_iff {d : Written.Draft} {m : Written} : d.build = .ok m ↔ d = m.full := by
  constructor
  · intro built
    obtain ⟨_ | key, _ | line, _ | description⟩ := d
    all_goals cases built
    rfl
  · rintro rfl
    rfl

theorem written_full (m : KeyMapping) : m.full.written = m.written.full := rfl

theorem widens_record : Json.Record.Widens Draft.written written Written.record record where
  fields := by
    refine .cons ?_ (.cons ?_ (.cons ?_ .nil))
    · refine Json.Widens.rfl.field Draft.written_injective (fun d key => { d with key := some key })
        (fun d key => { d with key := some key }) (fun _ _ => rfl) (fun _ _ => rfl) rfl (fun _ => rfl) (fun _ _ => rfl)
        (fun _ => ⟨_, rfl⟩) ?_
      rintro draft key next - same
      obtain ⟨-, line, description⟩ := Written.Draft.mk.inj same
      exact ⟨{ next with key := draft.key }, by rw [Draft.written, ← line, ← description]⟩
    · refine KeyLine.widens_read.field Draft.written_injective (fun d line => { d with line := some line })
        (fun d line => { d with line := some line }) (fun _ _ => rfl) (fun _ _ => rfl) rfl (fun _ => Option.isSome_map)
        (fun _ _ => rfl) ?_ ?_
      · intro draft line next same
        obtain ⟨-, line, -⟩ := Written.Draft.mk.inj same
        obtain ⟨found, -, rfl⟩ := Option.map_eq_some_iff.mp line.symm
        exact ⟨found, rfl⟩
      · intro draft line next fresh same
        -- The line is the one field that could be wrong, and it was not read yet.
        obtain ⟨key, -, description⟩ := Written.Draft.mk.inj same
        have unread : draft.line = none := by simpa using fresh
        exact ⟨{ next with line := none }, by rw [Draft.written, ← key, ← description, Option.map_none, ← unread]⟩
    · refine Json.Widens.rfl.field Draft.written_injective (fun d description => { d with description := some description })
        (fun d description => { d with description := some description }) (fun _ _ => rfl) (fun _ _ => rfl) rfl
        (fun _ => rfl) (fun _ _ => rfl) (fun _ => ⟨_, rfl⟩) ?_
      rintro draft description next - same
      obtain ⟨key, line, -⟩ := Written.Draft.mk.inj same
      exact ⟨{ next with description := draft.description }, by rw [Draft.written, ← line, ← key]⟩
  injective := Draft.written_injective
  blank := rfl
  build draft m := by
    refine Draft.build_eq_ok_iff.trans (Iff.trans ?_ Written.Draft.build_eq_ok_iff.symm)
    rw [← written_full, Draft.written_injective.eq_iff]
  built {draft m} build := by
    rw [Written.Draft.build_eq_ok_iff.mp build]
    exact ⟨m.full, rfl⟩
  apart := by
    simp only [Written.record, List.pairwise_cons, List.forall_mem_cons]
    refine ⟨⟨?_, ?_, nofun⟩, ⟨?_, nofun⟩, nofun, .nil⟩
    all_goals
      intro draft cs next rest read
      obtain ⟨_, -, same⟩ := Json.bind_eq_ok_iff.mp read
      cases same
      rfl
  fresh := by simp [Written.record]

end KeyMapping

/-! ## Programs -/

namespace Program

def written (p : Program) : Written :=
  ⟨p.name, p.locator, p.mappings.map KeyMapping.written⟩

def Draft.written (d : Draft) : Written.Draft :=
  ⟨d.name, d.locator, d.mappings.map (List.map KeyMapping.written)⟩

theorem Draft.written_injective : Function.Injective Draft.written := by
  rintro ⟨name, locator, mappings⟩ ⟨name', locator', mappings'⟩ same
  obtain ⟨rfl, rfl, lists⟩ := Written.Draft.mk.inj same
  obtain rfl := Option.map_injective (List.map_injective_iff.mpr KeyMapping.written_injective) lists
  rfl

theorem Draft.build_eq_ok_iff {d : Draft} {p : Program} :
    d.build = .ok p ↔ d.name = some p.name ∧ d.locator = some p.locator ∧ d.mappings.getD [] = p.mappings := by
  constructor
  · intro built
    obtain ⟨_ | name, _ | locator, mappings⟩ := d
    all_goals cases built
    exact ⟨rfl, rfl, rfl⟩
  · intro ⟨name, locator, same⟩
    rw [build, name, locator, same]

theorem Written.Draft.build_eq_ok_iff {d : Written.Draft} {p : Written} :
    d.build = .ok p ↔ d.name = some p.name ∧ d.locator = some p.locator ∧ d.mappings.getD [] = p.mappings := by
  constructor
  · intro built
    obtain ⟨_ | name, _ | locator, mappings⟩ := d
    all_goals cases built
    exact ⟨rfl, rfl, rfl⟩
  · intro ⟨name, locator, same⟩
    rw [build, name, locator, same]

theorem widens_record : Json.Record.Widens Draft.written written Written.record record where
  fields := by
    refine .cons ?_ (.cons ?_ (.cons ?_ .nil))
    · refine Json.Widens.rfl.field Draft.written_injective (fun d name => { d with name := some name })
        (fun d name => { d with name := some name }) (fun _ _ => rfl) (fun _ _ => rfl) rfl (fun _ => rfl) (fun _ _ => rfl)
        (fun _ => ⟨_, rfl⟩) ?_
      rintro draft name next - same
      obtain ⟨-, locator, mappings⟩ := Written.Draft.mk.inj same
      exact ⟨{ next with name := draft.name }, by rw [Draft.written, ← locator, ← mappings]⟩
    · refine Json.Widens.rfl.field Draft.written_injective (fun d locator => { d with locator := some locator })
        (fun d locator => { d with locator := some locator }) (fun _ _ => rfl) (fun _ _ => rfl) rfl (fun _ => rfl)
        (fun _ _ => rfl) (fun _ => ⟨_, rfl⟩) ?_
      rintro draft locator next - same
      obtain ⟨name, -, mappings⟩ := Written.Draft.mk.inj same
      exact ⟨{ next with locator := draft.locator }, by rw [Draft.written, ← name, ← mappings]⟩
    · refine KeyMapping.widens_record.read.list.field Draft.written_injective
        (fun d mappings => { d with mappings := some mappings }) (fun d mappings => { d with mappings := some mappings })
        (fun _ _ => rfl) (fun _ _ => rfl) rfl (fun _ => Option.isSome_map) (fun _ _ => rfl) ?_ ?_
      · intro draft mappings next same
        obtain ⟨-, -, mappings⟩ := Written.Draft.mk.inj same
        obtain ⟨found, -, rfl⟩ := Option.map_eq_some_iff.mp mappings.symm
        exact ⟨found, rfl⟩
      · intro draft mappings next fresh same
        obtain ⟨name, locator, -⟩ := Written.Draft.mk.inj same
        have unread : draft.mappings = none := by simpa using fresh
        exact ⟨{ next with mappings := none }, by rw [Draft.written, ← name, ← locator, Option.map_none, ← unread]⟩
  injective := Draft.written_injective
  blank := rfl
  build draft p := by
    refine Draft.build_eq_ok_iff.trans (Iff.trans ?_ Written.Draft.build_eq_ok_iff.symm)
    have plain : draft.written.mappings.getD [] = (draft.mappings.getD []).map KeyMapping.written := by
      cases mappings : draft.mappings <;> simp [Draft.written, mappings]
    rw [plain, written, (List.map_injective_iff.mpr KeyMapping.written_injective).eq_iff]
    rfl
  built {draft p} build := by
    obtain ⟨name, locator, mappings⟩ := draft
    obtain ⟨rfl, rfl, same⟩ := Written.Draft.build_eq_ok_iff.mp build
    cases mappings with
    | none => exact ⟨⟨some p.name, some p.locator, none⟩, rfl⟩
    | some read =>
      obtain rfl : read = p.mappings.map KeyMapping.written := same
      exact ⟨⟨some p.name, some p.locator, some p.mappings⟩, rfl⟩
  apart := by
    simp only [Written.record, List.pairwise_cons, List.forall_mem_cons]
    refine ⟨⟨?_, ?_, nofun⟩, ⟨?_, nofun⟩, nofun, .nil⟩
    all_goals
      intro draft cs next rest read
      obtain ⟨_, -, same⟩ := Json.bind_eq_ok_iff.mp read
      cases same
      rfl
  fresh := by simp [Written.record]

end Program

/-! ## Catalogs -/

namespace Catalog

theorem ofList_eq_ok_iff {programs : List Program} {c : Catalog} : ofList programs = .ok c ↔ programs = c.programs := by
  constructor
  · intro made
    cases programs with
    | nil => cases made
    | cons first others =>
      cases made
      rfl
  · rintro rfl
    exact ofList_programs c

/-- What the text of a catalog says are its programs, and nothing else is the text of a catalog. -/
theorem ofJson_eq_ok_iff {text : String} {c : Catalog} :
    ofJson text = .ok c ↔
      Json.parse (Json.readList Program.Written.record.read) text = .ok (c.programs.map Program.written) := by
  rw [← Program.widens_record.read.list.parse, ofJson, Json.bind_eq_ok_iff]
  simp only [ofList_eq_ok_iff]
  cases Json.parse (Json.readList Program.record.read) text with
  | ok programs => simp [Except.mapError]
  | error fault => simp [Except.mapError]

end Catalog

theorem KeyMapping.onKeypad_written (m : KeyMapping) : m.written.OnKeypad :=
  ⟨m.line.number.toNat, m.line.number_lt, rfl⟩

/-- Nothing comes of a text without programs, or with a line off the keypad. -/
theorem Catalog.ofJson_eq_error {text : String} {written : List Program.Written}
    (read : Json.parse (Json.readList Program.Written.record.read) text = .ok written)
    (wrong : written = [] ∨ ∃ p ∈ written, ∃ m ∈ p.mappings, ¬ m.OnKeypad) :
    ∃ failure, ofJson text = .error failure := by
  cases made : ofJson text with
  | error failure => exact ⟨failure, rfl⟩
  | ok c =>
    obtain rfl : written = c.programs.map Program.written :=
      Except.ok.inj (read.symm.trans (ofJson_eq_ok_iff.mp made))
    rcases wrong with none | ⟨_, listed, _, mapped, off⟩
    · cases none
    · obtain ⟨p, -, rfl⟩ := List.mem_map.mp listed
      obtain ⟨m, -, rfl⟩ := List.mem_map.mp mapped
      exact absurd m.onKeypad_written off

end Chip8Console
