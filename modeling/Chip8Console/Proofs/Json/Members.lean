import Chip8Console.Proofs.Json.Skipping

/-! # Objects as anybody writes them

An object may have white space around its names and values, its members in any order, and members of names that the
record does not have.  It is read into a record if each member can be taken by the draft that the members before it
have made (`Record.Takes`).

Wherever a value stands, there may be white space in front of it, and whatever ends it comes next.  What is written for
a scalar reads as that scalar at any such place (`ReadsAs`).
-/

namespace Chip8Console.Json

/-- At any place where it may stand, this text is read as that value. -/
def ReadsAs {α : Type} (read : Reader α) (cs : List Char) (a : α) : Prop :=
  ∀ before rest, Blank before → Settled rest → read (before ++ (cs ++ rest)) = .ok (a, rest)

/-! ## Scalars -/

section Scalars

theorem readsAs_writeString (s : String) : ReadsAs readString (writeString s) s := by
  intro before rest blank _
  rw [readString, readHead_append blank, readHead_writeString]
  rfl

theorem readsAs_writeString? (s : Option String) : ReadsAs readString? (writeString? s) s := by
  intro before rest blank _
  rw [readString?, readHead_append blank]
  cases s with
  | none => rfl
  | some s =>
    rw [writeString?, readHead_writeString]
    rfl

theorem readsAs_writeBool (b : Bool) : ReadsAs readBool (writeBool b) b := by
  intro before rest blank _
  rw [readBool, readHead_append blank]
  cases b <;> rfl

theorem readsAs_writeNat {n bound : Nat} (below : n < bound) (fits : bound ≤ UInt64.size) (expected : String) :
    ReadsAs (readNatBelow bound expected) (writeNat n) n := by
  intro before rest blank settled
  have read := readNatBelow_writeNat below fits expected settled
  rwa [readNatBelow, ← readHead_append blank] at read

end Scalars

/-! ## Objects -/

theorem Between.length_le {inner : List Char} {parts : List (List Char)} (layout : Between inner parts) :
    parts.length ≤ inner.length + 1 := by
  cases layout with
  | nothing => exact Nat.zero_le _
  | parts part parts => exact length_le_separated (part :: parts)

namespace Record

variable {δ α : Type} {r : Record δ α} {draft next last : δ} {name : String} {rest : List Char}

/-- What one member does to a draft: a field that the draft does not have yet is read, and the value of a name that no
field has is passed over. -/
inductive Accepts (r : Record δ α) (draft : δ) (name : String) (value : List Char) : δ → Prop where
  | field {next : δ} {field : Field δ} (found : r.fields.find? (·.name == name) = some field)
      (missing : field.given draft = false)
      (reads : ReadsAs (field.read draft) value next) : Accepts r draft name value next
  | foreign (unknown : r.fields.find? (·.name == name) = none) (isValue : IsValue value) : Accepts r draft name value draft

/-- What some members do to a draft, one after the other. -/
inductive Takes (r : Record δ α) : δ → List Member → δ → Prop where
  | done (draft : δ) : Takes r draft [] draft
  | member {draft next last : δ} {m : Member} {members : List Member} {name : String}
      (named : Names m.name.content name) (accepts : Accepts r draft name m.value.content next)
      (more : Takes r next members last) : Takes r draft (m :: members) last

/-- A field that is read by `read` and put into the draft by `put`. -/
theorem Accepts.put {β : Type} {read : Reader β} {value : List Char} {b : β} (reads : ReadsAs read value b)
    (put : β → δ) {field : Field δ} (found : r.fields.find? (·.name == name) = some field)
    (missing : field.given draft = false)
    (read_eq : ∀ cs, field.read draft cs = (do let (b, rest) ← read cs; return (put b, rest)))
    (made : put b = next) : Accepts r draft name value next := by
  subst made
  refine .field found missing fun before rest blank settled => ?_
  rw [read_eq, reads before rest blank settled]
  rfl

theorem colon_append {after : List Char} (blank : Blank after) (rest : List Char) :
    colon (after ++ ':' :: rest) = .ok rest := by
  unfold colon
  rw [skipBlanks_append blank]
  rfl

theorem Accepts.readMember {value : Padded} (accepts : Accepts r draft name value.content next) {after : List Char}
    (blank : Blank after) (settled : Settled rest) :
    r.readMember draft name (after ++ ':' :: (value.text ++ rest)) = .ok (next, value.after ++ rest) := by
  have settled := settled.blank value.blank_after
  have colon := colon_append blank (value.text ++ rest)
  rw [Padded.text, List.append_assoc, List.append_assoc] at colon ⊢
  cases accepts with
  | field found missing reads =>
    simp only [Record.readMember, found, missing, colon, bind, Except.bind]
    exact reads _ _ value.blank_before settled
  | foreign unknown isValue =>
    have skipped := skipValue_of_isValue value.blank_before isValue settled
    simp only [Record.readMember, unknown, colon, skipped, bind, Except.bind]
    rfl

section Names

variable {m : Member}

theorem nextName_first_member (named : Names m.name.content name) (rest : List Char) :
    nextName true (m.text ++ rest) = .ok (some name, m.name.after ++ ':' :: (m.value.text ++ rest)) := by
  obtain ⟨letters, content, spells⟩ := named
  have read := spells.read [] (m.name.after ++ ':' :: (m.value.text ++ rest))
  simp [nextName, m.skipBlanks_text content, readText, read, bind, Except.bind, pure, Except.pure]

theorem nextName_later_member (named : Names m.name.content name) {before : List Char} (blank : Blank before)
    (rest : List Char) : nextName false (before ++ ',' :: (m.text ++ rest)) =
      .ok (some name, m.name.after ++ ':' :: (m.value.text ++ rest)) := by
  obtain ⟨letters, content, spells⟩ := named
  have read := spells.read [] (m.name.after ++ ':' :: (m.value.text ++ rest))
  have comma : skipBlanks (',' :: (m.text ++ rest)) = ',' :: (m.text ++ rest) := rfl
  simp [nextName, skipBlanks_append blank, comma, m.skipBlanks_text content, readText, read, bind, Except.bind, pure,
    Except.pure]

theorem nextName_closing {before : List Char} (first : Bool) (blank : Blank before) (rest : List Char) :
    nextName first (before ++ '\x7d' :: rest) = .ok (none, rest) := by
  unfold nextName
  rw [skipBlanks_append blank]
  rfl

end Names

theorem readMembers_step {m : Member} {cs : List Char} {first : Bool} {rounds : Nat}
    (named : nextName first cs = .ok (some name, m.name.after ++ ':' :: (m.value.text ++ rest)))
    (accepts : Accepts r draft name m.value.content next) (settled : Settled rest) :
    r.readMembers (rounds + 1) first draft cs = r.readMembers rounds false next (m.value.after ++ rest) := by
  simp only [readMembers, named, accepts.readMember m.name.blank_after settled, bind, Except.bind]

/-- After the first member, each comes behind a comma. -/
theorem Takes.readMembers_later {members : List Member} (takes : Takes r draft members last) {rounds : Nat}
    (enough : members.length < rounds) {before : List Char} (blank : Blank before) (rest : List Char) :
    r.readMembers rounds false draft
        (before ++ ((members.map Member.text).flatMap (',' :: ·) ++ '\x7d' :: rest)) = .ok (last, rest) := by
  induction takes generalizing rounds before with
  | done draft =>
    cases rounds with
    | zero => exact absurd enough (Nat.not_lt_zero _)
    | succ rounds =>
      simp only [List.map_nil, List.flatMap_nil, List.nil_append, readMembers, nextName_closing false blank, bind,
        Except.bind]
      rfl
  | @member _ _ _ m members _ named accepts more ih =>
    cases rounds with
    | zero => exact absurd enough (Nat.not_lt_zero _)
    | succ rounds =>
      have settled := settled_flatMap_comma (rfl : continuesNumber '\x7d' = false) (members.map Member.text) rest
      rw [List.map_cons, List.flatMap_cons, List.cons_append, List.cons_append, List.append_assoc,
        readMembers_step (nextName_later_member named blank _) accepts settled]
      exact ih (Nat.lt_of_succ_lt_succ enough) m.value.blank_after

theorem Takes.readMembers_between {members : List Member} (takes : Takes r draft members last) {inner : List Char}
    (layout : Between inner (members.map Member.text)) {rounds : Nat} (enough : members.length < rounds)
    (rest : List Char) : r.readMembers rounds true draft (inner ++ '\x7d' :: rest) = .ok (last, rest) := by
  cases rounds with
  | zero => exact absurd enough (Nat.not_lt_zero _)
  | succ rounds =>
    cases takes with
    | done =>
      cases layout with
      | nothing blank =>
        simp only [readMembers, nextName_closing true blank, bind, Except.bind]
        rfl
    | @member _ _ _ m members _ named accepts more =>
      cases layout with
      | parts =>
        have settled := settled_flatMap_comma (rfl : continuesNumber '\x7d' = false) (members.map Member.text) rest
        rw [separated_cons, List.append_assoc, readMembers_step (nextName_first_member named _) accepts settled]
        exact more.readMembers_later (Nat.lt_of_succ_lt_succ enough) m.value.blank_after rest

/-- An object is read to its closing bracket. -/
theorem Takes.read {members : List Member} (takes : Takes r r.blank members last) {a : α} (build : r.build last = .ok a)
    {before inner : List Char} (blank : Blank before) (layout : Between inner (members.map Member.text))
    (rest : List Char) : r.read (before ++ '\x7b' :: (inner ++ '\x7d' :: rest)) = .ok (a, rest) := by
  have enough : members.length < (inner ++ '\x7d' :: rest).length + 1 := by
    have few := layout.length_le
    simp only [List.length_map, List.length_append, List.length_cons] at few ⊢
    omega
  have head : readHead .thorough ('\x7b' :: (inner ++ '\x7d' :: rest)) = .ok (.object, inner ++ '\x7d' :: rest) := rfl
  simp only [Record.read, readHead_append blank, head, takes.readMembers_between layout enough rest, build, bind,
    Except.bind]
  rfl

/-- A text that is one object and nothing else but white space is read as the record. -/
theorem Takes.parse {members : List Member} (takes : Takes r r.blank members last) {a : α}
    (build : r.build last = .ok a) {before inner after : List Char} (blank_before : Blank before)
    (layout : Between inner (members.map Member.text)) (blank_after : Blank after) :
    parse r.read (String.ofList (before ++ '\x7b' :: (inner ++ '\x7d' :: after))) = .ok a := by
  have read := takes.read build blank_before layout after
  have ends : atEnd after = .ok () := by
    rw [atEnd, skipBlanks_blank blank_after]
    rfl
  simp only [Json.parse, String.toList_ofList, read, ends, bind, Except.bind]
  rfl

end Record

end Chip8Console.Json
