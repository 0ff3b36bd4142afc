import Chip8Console.Proofs.Json.Tokens

/-! # Written values read back

A reader `Inverts` a writer if it takes what is written for a value back to that value, and leaves whatever
comes after.  Lists inherit this from their elements.  A record has it if its members, one after the other,
take its blank draft to one from which the value is built (`Record.Fills`).
-/

namespace Chip8Console.Json

/-- What is written for a value reads back as that value.  Nor can it be taken for the end of a list. -/
structure Inverts {α : Type} (read : Reader α) (write : α → List Char) : Prop where
  begins : ∀ a, ∃ c cs, write a = c :: cs ∧ isBlank c = false ∧ c ≠ ']'
  reads : ∀ a rest, Settled rest → read (write a ++ rest) = .ok (a, rest)

theorem inverts_readString : Inverts readString writeString where
  begins s := ⟨'"', s.toList.flatMap writeChar ++ ['"'], rfl, rfl, by decide⟩
  reads s rest _ := by
    rw [readString, readHead_writeString]
    rfl

theorem writeNat_begins (n : Nat) : ∃ c cs, writeNat n = c :: cs ∧ isBlank c = false ∧ c ≠ ']' := by
  obtain ⟨d, ds, front, digit⟩ := (magnitude_writeNat n).begins
  refine ⟨d, ds, front, isBlank_of_isDigit digit, ?_⟩
  rintro rfl
  cases digit

theorem readNatBelow_writeNat {n bound : Nat} (below : n < bound) (fits : bound ≤ UInt64.size) (expected : String)
    {rest : List Char} (settled : Settled rest) :
    readNatBelow bound expected (writeNat n ++ rest) = .ok (n, rest) := by
  rw [readNatBelow, readHead_writeNat (Nat.lt_of_lt_of_le below fits) settled]
  simp [below, bind, Except.bind, pure, Except.pure]

/-! ## Lists -/

theorem separated_cons (value : List Char) (values : List (List Char)) :
    separated (value :: values) = value ++ values.flatMap (',' :: ·) := by
  induction values generalizing value with
  | nil => simp [separated]
  | cons next values ih => simp [separated, ih next]

/-- Behind each value comes a comma or the bracket that closes all. -/
theorem settled_flatMap_comma {close : Char} (ends : continuesNumber close = false) (values : List (List Char))
    (rest : List Char) : Settled (values.flatMap (',' :: ·) ++ close :: rest) := by
  cases values with
  | nil => exact settled_cons ends rest
  | cons value values => exact settled_cons rfl _

theorem length_le_flatMap_comma (values : List (List Char)) : values.length ≤ (values.flatMap (',' :: ·)).length := by
  induction values with
  | nil => exact Nat.zero_le _
  | cons value values ih =>
    simp only [List.flatMap_cons, List.length_cons, List.length_append]
    omega

theorem length_le_separated (values : List (List Char)) : values.length ≤ (separated values).length + 1 := by
  cases values with
  | nil => exact Nat.zero_le _
  | cons value values =>
    have := length_le_flatMap_comma values
    simp only [separated_cons, List.length_cons, List.length_append]
    omega

section Lists

variable {α : Type} {element : Reader α} {write : α → List Char}

theorem Inverts.nextElement_first (inverts : Inverts element write) (a : α) (rest : List Char) :
    nextElement true (write a ++ rest) = .ok (some (write a ++ rest)) := by
  obtain ⟨c, cs, front, blank, bracket⟩ := inverts.begins a
  simp [nextElement, skipBlanks, front, blank]

theorem Inverts.nextElement_comma (inverts : Inverts element write) (a : α) (rest : List Char) :
    nextElement false (',' :: (write a ++ rest)) = .ok (some (write a ++ rest)) := by
  obtain ⟨c, cs, front, blank, bracket⟩ := inverts.begins a
  have comma : isBlank ',' = false := rfl
  simp [nextElement, skipBlanks, comma, front, blank, bracket]

theorem readElements_cons (inverts : Inverts element write) {a : α} {as : List α} {first : Bool} {rounds : Nat}
    {cs between rest : List Char} (next : nextElement first cs = .ok (some (write a ++ between)))
    (settled : Settled between) (more : readElements element rounds false between = .ok (as, rest)) :
    readElements element (rounds + 1) first cs = .ok (a :: as, rest) := by
  simp only [readElements, next, inverts.reads a between settled, more, bind, Except.bind, pure, Except.pure]

/-- After the first element, each comes behind a comma. -/
theorem readElements_more (inverts : Inverts element write) (as : List α) (rest : List Char) {rounds : Nat}
    (enough : as.length < rounds) :
    readElements element rounds false ((as.map write).flatMap (',' :: ·) ++ ']' :: rest) = .ok (as, rest) := by
  induction as generalizing rounds with
  | nil =>
    cases rounds with
    | zero => nomatch enough
    | succ rounds => rfl
  | cons a as ih =>
    cases rounds with
    | zero => nomatch enough
    | succ rounds =>
      -- The element leaves the text from the next comma on, or from the bracket.
      rw [List.map_cons, List.flatMap_cons, List.cons_append, List.cons_append, List.append_assoc]
      exact readElements_cons inverts (inverts.nextElement_comma a _) (settled_flatMap_comma rfl _ rest)
        (ih (Nat.lt_of_succ_lt_succ enough))

theorem readElements_separated (inverts : Inverts element write) (as : List α) (rest : List Char) {rounds : Nat}
    (enough : as.length < rounds) :
    readElements element rounds true (separated (as.map write) ++ ']' :: rest) = .ok (as, rest) := by
  cases rounds with
  | zero => nomatch enough
  | succ rounds =>
    cases as with
    | nil => rfl
    | cons a as =>
      rw [List.map_cons, separated_cons, List.append_assoc]
      exact readElements_cons inverts (inverts.nextElement_first a _) (settled_flatMap_comma rfl _ rest)
        (readElements_more inverts as rest (Nat.lt_of_succ_lt_succ enough))

theorem Inverts.list (inverts : Inverts element write) :
    Inverts (readList element) fun as => writeList (as.map write) where
  begins as := ⟨'[', separated (as.map write) ++ [']'], rfl, rfl, by decide⟩
  reads as rest _ := by
    have enough : as.length < (separated (as.map write) ++ ']' :: rest).length + 1 := by
      have := length_le_separated (as.map write)
      simp only [List.length_map, List.length_append, List.length_cons] at this ⊢
      omega
    have read := readElements_separated inverts as rest enough
    simp only [writeList, List.cons_append, List.append_assoc, List.nil_append]
    exact read

end Lists

/-! ## Records -/

namespace Record

variable {δ α : Type} {r : Record δ α}

theorem nextName_first (name : String) (rest : List Char) :
    nextName true (writeString name ++ rest) = .ok (some name, rest) := by
  have front : skipBlanks ('"' :: (name.toList.flatMap writeChar ++ '"' :: rest)) =
      '"' :: (name.toList.flatMap writeChar ++ '"' :: rest) := rfl
  simp [nextName, writeString, front, readText_writeString, bind, Except.bind, pure, Except.pure]

theorem nextName_comma (name : String) (rest : List Char) :
    nextName false (',' :: (writeString name ++ rest)) = .ok (some name, rest) := by
  have comma : skipBlanks (',' :: '"' :: (name.toList.flatMap writeChar ++ '"' :: rest)) =
      ',' :: '"' :: (name.toList.flatMap writeChar ++ '"' :: rest) := rfl
  have front : skipBlanks ('"' :: (name.toList.flatMap writeChar ++ '"' :: rest)) =
      '"' :: (name.toList.flatMap writeChar ++ '"' :: rest) := rfl
  simp [nextName, writeString, comma, front, readText_writeString, bind, Except.bind, pure, Except.pure]

/-- Members that fill fields which the draft does not have yet, one after the other. -/
inductive Fills (r : Record δ α) : δ → List (String × List Char) → δ → Prop where
  | done (draft : δ) : Fills r draft [] draft
  | member {draft next last : δ} {name : String} {text : List Char} {members : List (String × List Char)}
      {field : Field δ} (found : r.fields.find? (·.name == name) = some field)
      (missing : field.given draft = false)
      (reads : ∀ rest, Settled rest → field.read draft (text ++ rest) = .ok (next, rest))
      (more : Fills r next members last) : Fills r draft ((name, text) :: members) last

/-- A field that is read by `read` and put into the draft by `put`. -/
theorem Fills.put {β : Type} {read : Reader β} {write : β → List Char} (inverts : Inverts read write) {field : Field δ}
    {name : String} {draft last : δ} {members : List (String × List Char)} (put : β → δ) (b : β)
    (found : r.fields.find? (·.name == name) = some field) (missing : field.given draft = false)
    (read_eq : ∀ cs, field.read draft cs = (do let (b, rest) ← read cs; return (put b, rest)))
    (more : Fills r (put b) members last) : Fills r draft ((name, write b) :: members) last := by
  refine .member found missing (fun rest settled => ?_) more
  rw [read_eq, inverts.reads b rest settled]
  rfl

theorem readMembers_cons {draft next last : δ} {name : String} {text cs between rest : List Char} {field : Field δ}
    {first : Bool} {rounds : Nat} (named : nextName first cs = .ok (some name, ':' :: (text ++ between)))
    (found : r.fields.find? (·.name == name) = some field) (missing : field.given draft = false)
    (read : field.read draft (text ++ between) = .ok (next, between))
    (more : r.readMembers rounds false next between = .ok (last, rest)) :
    r.readMembers (rounds + 1) first draft cs = .ok (last, rest) := by
  have member : r.readMember draft name (':' :: (text ++ between)) = .ok (next, between) := by
    simp only [readMember, found, missing]
    exact read
  simp only [readMembers, named, member, more, bind, Except.bind]

/-- After the first member, each comes behind a comma. -/
theorem readMembers_more {draft last : δ} {members : List (String × List Char)} (fills : Fills r draft members last)
    (rest : List Char) {rounds : Nat} (enough : members.length < rounds) :
    r.readMembers rounds false draft
        ((members.map fun m => writeMember m.1 m.2).flatMap (',' :: ·) ++ '\x7d' :: rest) = .ok (last, rest) := by
  induction fills generalizing rounds with
  | done draft =>
    cases rounds with
    | zero => nomatch enough
    | succ rounds => rfl
  | @member _ _ _ name text members _ found missing reads more ih =>
    cases rounds with
    | zero => nomatch enough
    | succ rounds =>
      have settled := settled_flatMap_comma (rfl : continuesNumber '\x7d' = false) (members.map fun m => writeMember m.1 m.2) rest
      rw [List.map_cons, List.flatMap_cons, List.cons_append, List.cons_append, List.append_assoc, writeMember,
        List.append_assoc]
      exact readMembers_cons (nextName_comma name _) found missing (reads _ settled)
        (ih (Nat.lt_of_succ_lt_succ enough))

theorem readMembers_separated {draft last : δ} {members : List (String × List Char)}
    (fills : Fills r draft members last) (rest : List Char) {rounds : Nat} (enough : members.length < rounds) :
    r.readMembers rounds true draft
        (separated (members.map fun m => writeMember m.1 m.2) ++ '\x7d' :: rest) = .ok (last, rest) := by
  cases rounds with
  | zero => nomatch enough
  | succ rounds =>
    cases fills with
    | done => rfl
    | @member _ _ _ name text members _ found missing reads more =>
      have settled := settled_flatMap_comma (rfl : continuesNumber '\x7d' = false) (members.map fun m => writeMember m.1 m.2) rest
      rw [List.map_cons, separated_cons, List.append_assoc, writeMember, List.append_assoc]
      exact readMembers_cons (nextName_first name _) found missing (reads _ settled)
        (readMembers_more more rest (Nat.lt_of_succ_lt_succ enough))

/-- A record reads back if its members fill its blank draft with what its value is built from. -/
theorem inverts {members : α → List (String × List Char)} (draft : α → δ)
    (fills : ∀ a, Fills r r.blank (members a) (draft a)) (build : ∀ a, r.build (draft a) = .ok a) :
    Inverts r.read fun a => writeObject (members a) where
  begins a := ⟨'\x7b', separated ((members a).map fun m => writeMember m.1 m.2) ++ ['\x7d'], rfl, rfl, by decide⟩
  reads a rest _ := by
    have enough : (members a).length <
        (separated ((members a).map fun m => writeMember m.1 m.2) ++ '\x7d' :: rest).length + 1 := by
      have := length_le_separated ((members a).map fun m => writeMember m.1 m.2)
      simp only [List.length_map, List.length_append, List.length_cons] at this ⊢
      omega
    have read := readMembers_separated (fills a) rest enough
    have head : ∀ cs, readHead .thorough ('\x7b' :: cs) = .ok (.object, cs) := fun _ => rfl
    simp only [writeObject, List.cons_append, List.append_assoc, List.nil_append, Record.read, head, bind, Except.bind,
      read, build]
    rfl

end Record

/-- A text with one written value reads back as that value. -/
theorem Inverts.parse {α : Type} {read : Reader α} {write : α → List Char} (inverts : Inverts read write) (a : α) :
    parse read (String.ofList (write a)) = .ok a := by
  have whole := inverts.reads a [] settled_nil
  rw [List.append_nil] at whole
  rw [Json.parse, String.toList_ofList, whole]
  rfl

end Chip8Console.Json
