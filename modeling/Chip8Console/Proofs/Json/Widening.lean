import Chip8Console.Json.Record
import Mathlib.Data.List.Forall2

/-! # Readers that take in more

A reader is widened by another one that takes in more texts, and that makes of a text which both take in the same
value, in a plainer form (`Widens`).  Lists inherit this from their elements, and records from their fields, in either
notation: as an object (`Record.Widens.members`) and as a list (`Record.readFields_widens`).

In a record it has to be told from the last draft whether all went well on the way to it.  It can, as no field is ever
read twice: what is wrong with a field stays wrong (`Field.Widens.back`).
-/

namespace Chip8Console.Json

theorem bind_eq_ok_iff {ε α β : Type} {x : Except ε α} {f : α → Except ε β} {b : β} :
    (x >>= f) = .ok b ↔ ∃ a, x = .ok a ∧ f a = .ok b := by
  cases x <;> simp [bind, Except.bind]

/-- What the narrow reader takes in, the wide one takes in, and the same holds the other way for plain forms. -/
def Widens {α β : Type} (plain : β → α) (wide : Reader α) (narrow : Reader β) : Prop :=
  ∀ cs b rest, narrow cs = .ok (b, rest) ↔ wide cs = .ok (plain b, rest)

theorem Widens.rfl {α : Type} {reader : Reader α} : Widens id reader reader :=
  fun _ _ _ => Iff.rfl

/-! ## Lists -/

section Lists

variable {α β : Type} {plain : β → α} {wide : Reader α} {narrow : Reader β}

theorem Widens.elements (w : Widens plain wide narrow) (rounds : Nat) (first : Bool) :
    Widens (List.map plain) (readElements wide rounds first) (readElements narrow rounds first) := by
  induction rounds generalizing first with
  | zero => simp [Widens, readElements]
  | succ rounds ih =>
    intro cs bs rest
    rw [readElements, readElements, bind_eq_ok_iff, bind_eq_ok_iff]
    refine exists_congr fun next => and_congr_right fun _ => ?_
    cases next with
    | none =>
      simp only [bind_eq_ok_iff]
      refine exists_congr fun after => and_congr_right fun _ => ?_
      cases bs <;> simp [pure, Except.pure]
    | some cs =>
      simp only [bind_eq_ok_iff]
      constructor
      · rintro ⟨⟨b, between⟩, element, ⟨bs, after⟩, more, done⟩
        cases done
        exact ⟨(plain b, between), (w ..).mp element, (bs.map plain, after), (ih false ..).mp more, Eq.refl _⟩
      · rintro ⟨⟨a, between⟩, element, ⟨as, after⟩, more, done⟩
        cases bs with
        | nil => cases done
        | cons b bs =>
          cases done
          exact ⟨(b, between), (w ..).mpr element, (bs, after), (ih false ..).mpr more, Eq.refl _⟩

theorem Widens.list (w : Widens plain wide narrow) : Widens (List.map plain) (readList wide) (readList narrow) := by
  intro cs bs rest
  rw [readList, readList, bind_eq_ok_iff, bind_eq_ok_iff]
  refine exists_congr fun ⟨head, after⟩ => and_congr_right fun _ => ?_
  cases head with
  | list => exact w.elements _ true after bs rest
  | null | boolean _ | integer _ | double _ | text _ | object => simp [throw, throwThe, MonadExceptOf.throw]

end Lists

/-! ## Fields -/

variable {δ δ' : Type} {plain : δ' → δ}

/-- A field of a wide record, and the same field of a narrow one. -/
structure Field.Widens (plain : δ' → δ) (wide : Field δ) (narrow : Field δ') : Prop where
  name : wide.name = narrow.name
  given : ∀ draft, wide.given (plain draft) = narrow.given draft
  read : ∀ draft, Json.Widens plain (wide.read (plain draft)) (narrow.read draft)
  /-- A field that is read for the first time does not put right what was wrong before. -/
  back : ∀ {draft cs next rest}, wide.given draft = false → wide.read draft cs = .ok (plain next, rest) →
    ∃ before, plain before = draft

/-- A field that is read by `read` and put into the draft by `put`. -/
def Field.Puts {β : Type} (field : Field δ) (read : Reader β) (put : δ → β → δ) : Prop :=
  ∀ draft cs, field.read draft cs = (do let (b, rest) ← read cs; return (put draft b, rest))

theorem Field.Puts.read_eq_ok_iff {β : Type} {field : Field δ} {read : Reader β} {put : δ → β → δ}
    (puts : field.Puts read put) {draft next : δ} {cs rest : List Char} :
    field.read draft cs = .ok (next, rest) ↔ ∃ b, read cs = .ok (b, rest) ∧ put draft b = next := by
  rw [puts, bind_eq_ok_iff]
  constructor
  · rintro ⟨⟨b, after⟩, done, same⟩
    cases same
    exact ⟨b, done, rfl⟩
  · rintro ⟨b, done, rfl⟩
    exact ⟨(b, rest), done, rfl⟩

theorem Widens.field {α β : Type} {plainValue : β → α} {wide : Reader α} {narrow : Reader β}
    (w : Widens plainValue wide narrow) (injective : Function.Injective plain) {f : Field δ} {g : Field δ'}
    (put : δ → α → δ) (put' : δ' → β → δ') (puts : f.Puts wide put) (puts' : g.Puts narrow put') (name : f.name = g.name)
    (given : ∀ draft, f.given (plain draft) = g.given draft)
    (plain_put : ∀ draft b, plain (put' draft b) = put (plain draft) (plainValue b))
    (value : ∀ {draft a next}, put draft a = plain next → ∃ b, plainValue b = a)
    (before : ∀ {draft a next}, f.given draft = false → put draft a = plain next → ∃ before, plain before = draft) :
    f.Widens plain g where
  name := name
  given := given
  read := by
    intro draft cs next rest
    rw [puts.read_eq_ok_iff, puts'.read_eq_ok_iff]
    constructor
    · rintro ⟨b, done, rfl⟩
      exact ⟨plainValue b, (w ..).mp done, (plain_put draft b).symm⟩
    · rintro ⟨a, done, same⟩
      obtain ⟨b, rfl⟩ := value same
      exact ⟨b, (w ..).mpr done, injective ((plain_put draft b).trans same)⟩
  back := by
    intro draft cs next rest fresh read
    obtain ⟨a, -, same⟩ := puts.read_eq_ok_iff.mp read
    exact before fresh same

/-! ## Records -/

/-- A field that is read leaves the other alone. -/
def Field.Spares (f g : Field δ) : Prop :=
  ∀ {draft cs next rest}, f.read draft cs = .ok (next, rest) → g.given next = g.given draft

namespace Record

variable {α β : Type} {plainValue : β → α} {wide : Record δ α} {narrow : Record δ' β}

structure Widens (plain : δ' → δ) (plainValue : β → α) (wide : Record δ α) (narrow : Record δ' β) : Prop where
  fields : List.Forall₂ (Field.Widens plain) wide.fields narrow.fields
  injective : Function.Injective plain
  blank : plain narrow.blank = wide.blank
  build : ∀ draft b, narrow.build draft = .ok b ↔ wide.build (plain draft) = .ok (plainValue b)
  built : ∀ {draft b}, wide.build draft = .ok (plainValue b) → ∃ before, plain before = draft
  apart : wide.fields.Pairwise Field.Spares
  fresh : ∀ field ∈ wide.fields, field.given wide.blank = false

theorem find?_widens {fields : List (Field δ)} {fields' : List (Field δ')}
    (widen : List.Forall₂ (Field.Widens plain) fields fields') (name : String) :
    Option.Rel (Field.Widens plain) (fields.find? (·.name == name)) (fields'.find? (·.name == name)) := by
  induction widen with
  | nil => exact .none
  | @cons field field' fields fields' first _ ih =>
    rw [List.find?_cons, List.find?_cons, first.name]
    cases field'.name == name with
    | true => exact .some first
    | false => exact ih

namespace Widens

theorem pure_eq_ok_iff (w : Widens plain plainValue wide narrow) {draft next : δ'} {cs rest : List Char} :
    (pure (draft, cs) : Except Fault (δ' × List Char)) = .ok (next, rest) ↔
      (pure (plain draft, cs) : Except Fault (δ × List Char)) = .ok (plain next, rest) := by
  simp [pure, Except.pure, w.injective.eq_iff]

theorem member (w : Widens plain plainValue wide narrow) (name : String) (draft : δ') :
    Json.Widens plain (wide.readMember (plain draft) name) (narrow.readMember draft name) := by
  intro cs next rest
  have found := find?_widens w.fields name
  unfold readMember
  -- Both records have the field, or neither has.
  generalize wide.fields.find? (·.name == name) = field at found ⊢
  generalize narrow.fields.find? (·.name == name) = field' at found ⊢
  cases found with
  | none =>
    simp only [bind_eq_ok_iff]
    exact exists_congr fun _ => and_congr_right fun _ => exists_congr fun _ => and_congr_right fun _ => w.pure_eq_ok_iff
  | @some field field' widens =>
    simp only [widens.given]
    split
    · simp [throw, throwThe, MonadExceptOf.throw]
    · rw [bind_eq_ok_iff, bind_eq_ok_iff]
      exact exists_congr fun after => and_congr_right fun _ => widens.read draft after next rest

theorem member_back (w : Widens plain plainValue wide narrow) {name : String} {draft : δ} {cs rest : List Char}
    {next : δ'} (read : wide.readMember draft name cs = .ok (plain next, rest)) : ∃ before, plain before = draft := by
  have found := find?_widens w.fields name
  unfold readMember at read
  generalize wide.fields.find? (·.name == name) = field at found read
  generalize narrow.fields.find? (·.name == name) = field' at found
  cases found with
  | none =>
    simp only [bind_eq_ok_iff] at read
    obtain ⟨_, -, _, -, same⟩ := read
    cases same
    exact ⟨next, rfl⟩
  | @some field field' widens =>
    dsimp only at read
    split at read
    · cases read
    · rename_i fresh
      obtain ⟨_, -, read⟩ := bind_eq_ok_iff.mp read
      exact widens.back (by simpa using fresh) read

theorem members_back (w : Widens plain plainValue wide narrow) {rounds : Nat} {first : Bool} {draft : δ}
    {cs rest : List Char} {last : δ'} (read : wide.readMembers rounds first draft cs = .ok (plain last, rest)) :
    ∃ before, plain before = draft := by
  induction rounds generalizing first draft cs with
  | zero => cases read
  | succ rounds ih =>
    rw [readMembers, bind_eq_ok_iff] at read
    obtain ⟨⟨name, after⟩, -, read⟩ := read
    cases name with
    | none =>
      cases read
      exact ⟨last, rfl⟩
    | some name =>
      obtain ⟨⟨next, after⟩, member, more⟩ := bind_eq_ok_iff.mp read
      obtain ⟨next, rfl⟩ := ih more
      exact w.member_back member

/-- An object is read alike, member by member. -/
theorem members (w : Widens plain plainValue wide narrow) (rounds : Nat) (first : Bool) (draft : δ') :
    Json.Widens plain (wide.readMembers rounds first (plain draft)) (narrow.readMembers rounds first draft) := by
  induction rounds generalizing first draft with
  | zero => simp [Json.Widens, readMembers]
  | succ rounds ih =>
    intro cs last rest
    rw [readMembers, readMembers, bind_eq_ok_iff, bind_eq_ok_iff]
    refine exists_congr fun ⟨name, after⟩ => and_congr_right fun _ => ?_
    cases name with
    | none => exact w.pure_eq_ok_iff
    | some name =>
      simp only [bind_eq_ok_iff]
      constructor
      · rintro ⟨⟨next, between⟩, member, more⟩
        exact ⟨(plain next, between), (w.member ..).mp member, (ih false next ..).mp more⟩
      · rintro ⟨⟨next, between⟩, member, more⟩
        -- Only that the last draft is plain is known, and the member has to be taken in as well.
        obtain ⟨next, rfl⟩ := w.members_back more
        exact ⟨(next, between), (w.member ..).mpr member, (ih false next ..).mpr more⟩

end Widens

theorem readFields_back {fields : List (Field δ)} {fields' : List (Field δ')}
    (widen : List.Forall₂ (Field.Widens plain) fields fields') (apart : fields.Pairwise Field.Spares) {draft : δ}
    (fresh : ∀ field ∈ fields, field.given draft = false) {first : Bool} {cs rest : List Char} {last : δ'}
    (read : readFields fields first draft cs = .ok (plain last, rest)) : ∃ before, plain before = draft := by
  induction widen generalizing draft first cs with
  | nil =>
    cases read
    exact ⟨last, rfl⟩
  | @cons field field' fields fields' widens _ ih =>
    rw [readFields, bind_eq_ok_iff] at read
    obtain ⟨next, -, read⟩ := read
    cases next with
    | none =>
      cases read
      exact ⟨last, rfl⟩
    | some after =>
      obtain ⟨⟨next, between⟩, done, more⟩ := bind_eq_ok_iff.mp read
      rw [List.pairwise_cons] at apart
      rw [List.forall_mem_cons] at fresh
      obtain ⟨next, rfl⟩ := ih apart.2 (fun later among => (apart.1 later among done).trans (fresh.2 later among)) more
      exact widens.back fresh.1 done

/-- A list in place of an object is read alike, field by field. -/
theorem readFields_widens (injective : Function.Injective plain) {fields : List (Field δ)} {fields' : List (Field δ')}
    (widen : List.Forall₂ (Field.Widens plain) fields fields') (apart : fields.Pairwise Field.Spares) {draft : δ'}
    (fresh : ∀ field ∈ fields, field.given (plain draft) = false) (first : Bool) :
    Json.Widens plain (readFields fields first (plain draft)) (readFields fields' first draft) := by
  induction widen generalizing draft first with
  | nil =>
    intro cs last rest
    simp [readFields, injective.eq_iff]
  | @cons field field' fields fields' widens later ih =>
    intro cs last rest
    rw [List.pairwise_cons] at apart
    rw [List.forall_mem_cons] at fresh
    -- A list does not look whether a field was given before: each field simply comes once.
    have still {next : δ} {cs between : List Char} (done : field.read (plain draft) cs = .ok (next, between)) :
        ∀ other ∈ fields, other.given next = false :=
      fun other among => (apart.1 other among done).trans (fresh.2 other among)
    rw [readFields, readFields, bind_eq_ok_iff, bind_eq_ok_iff]
    refine exists_congr fun next => and_congr_right fun _ => ?_
    cases next with
    | none => simp [pure, Except.pure, injective.eq_iff]
    | some after =>
      simp only [bind_eq_ok_iff]
      constructor
      · rintro ⟨⟨next, between⟩, done, more⟩
        have done := (widens.read ..).mp done
        exact ⟨(plain next, between), done, (ih apart.2 (still done) false ..).mp more⟩
      · rintro ⟨⟨next, between⟩, done, more⟩
        obtain ⟨next, rfl⟩ := readFields_back later apart.2 (still done) more
        exact ⟨(next, between), (widens.read ..).mpr done, (ih apart.2 (still done) false ..).mpr more⟩

/-- The two notations of a record. -/
theorem read_eq_ok_iff {r : Record δ α} {cs rest : List Char} {a : α} :
    r.read cs = .ok (a, rest) ↔
      (∃ after, readHead .thorough cs = .ok (.object, after) ∧
        ∃ draft, r.readMembers (after.length + 1) true r.blank after = .ok (draft, rest) ∧ r.build draft = .ok a) ∨
      ∃ after, readHead .thorough cs = .ok (.list, after) ∧
        ∃ draft last, readFields r.fields true r.blank after = .ok (draft, last) ∧ r.build draft = .ok a ∧
          endList last = .ok rest := by
  constructor
  · intro read
    obtain ⟨⟨head, after⟩, begins, read⟩ := bind_eq_ok_iff.mp read
    cases head with
    | object =>
      obtain ⟨⟨draft, last⟩, members, read⟩ := bind_eq_ok_iff.mp read
      cases build : r.build draft with
      | ok a =>
        simp only [build] at read
        cases read
        exact .inl ⟨after, begins, draft, members, build⟩
      | error place =>
        simp only [build] at read
        cases read
    | list =>
      obtain ⟨⟨draft, last⟩, fields, read⟩ := bind_eq_ok_iff.mp read
      cases build : r.build draft with
      | ok a =>
        simp only [build] at read
        obtain ⟨_, ends, same⟩ := bind_eq_ok_iff.mp read
        cases same
        exact .inr ⟨after, begins, draft, last, fields, build, ends⟩
      | error place =>
        simp only [build] at read
        cases read
    | null | boolean _ | integer _ | double _ | text _ => cases read
  · rintro (⟨after, begins, draft, members, build⟩ | ⟨after, begins, draft, last, fields, build, ends⟩)
    · simp only [Record.read, begins, bind, Except.bind, members, build]
      rfl
    · simp only [Record.read, begins, bind, Except.bind, fields, build, ends]
      rfl

theorem Widens.read (w : Widens plain plainValue wide narrow) : Json.Widens plainValue wide.read narrow.read := by
  intro cs b rest
  have fresh : ∀ field ∈ wide.fields, field.given (plain narrow.blank) = false := w.blank ▸ w.fresh
  have listed := readFields_widens w.injective w.fields w.apart fresh true
  rw [read_eq_ok_iff, read_eq_ok_iff, ← w.blank]
  refine or_congr (exists_congr fun after => and_congr_right fun _ => ?_)
    (exists_congr fun after => and_congr_right fun _ => ?_)
  · constructor
    · rintro ⟨draft, members, build⟩
      exact ⟨plain draft, (w.members ..).mp members, (w.build ..).mp build⟩
    · rintro ⟨draft, members, build⟩
      obtain ⟨draft, rfl⟩ := w.built build
      exact ⟨draft, (w.members ..).mpr members, (w.build ..).mpr build⟩
  · constructor
    · rintro ⟨draft, last, fields, build, ends⟩
      exact ⟨plain draft, last, (listed ..).mp fields, (w.build ..).mp build, ends⟩
    · rintro ⟨draft, last, fields, build, ends⟩
      obtain ⟨draft, rfl⟩ := w.built build
      exact ⟨draft, last, (listed ..).mpr fields, (w.build ..).mpr build, ends⟩

end Record

theorem Widens.parse {α β : Type} {plain : β → α} {wide : Reader α} {narrow : Reader β}
    (w : Widens plain wide narrow) (text : String) (b : β) :
    parse narrow text = .ok b ↔ parse wide text = .ok (plain b) := by
  unfold Json.parse
  rw [bind_eq_ok_iff, bind_eq_ok_iff]
  constructor
  · rintro ⟨⟨b, rest⟩, read, ends⟩
    obtain ⟨⟨⟩, blank, same⟩ := bind_eq_ok_iff.mp ends
    cases same
    exact ⟨(plain b, rest), (w ..).mp read, bind_eq_ok_iff.mpr ⟨(), blank, Eq.refl _⟩⟩
  · rintro ⟨⟨a, rest⟩, read, ends⟩
    obtain ⟨⟨⟩, blank, same⟩ := bind_eq_ok_iff.mp ends
    cases same
    exact ⟨(b, rest), (w ..).mpr read, bind_eq_ok_iff.mpr ⟨(), blank, Eq.refl _⟩⟩

end Chip8Console.Json
