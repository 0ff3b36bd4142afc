import Chip8Console.Proofs.Json.Values

/-! # Values are passed over

Whoever passes over a value needs no more of it than its syntax: a text of the grammar is left behind, however deeply
nested (`skipValue_of_isValue`).  A walk keeps open brackets in a list, so the induction over the grammar speaks of a
walk inside any brackets, and says with what it goes on once the value is behind it (`Passes`).
-/

namespace Chip8Console.Json

namespace Bracket

def opening : Bracket → Char
  | .list => '['
  | .object => '\x7b'

def closing : Bracket → Char
  | .list => ']'
  | .object => '\x7d'

@[simp] theorem continuesNumber_closing (b : Bracket) : continuesNumber b.closing = false := by
  cases b <;> rfl

end Bracket

/-- Goes on behind a value, with what `walkOn` says of it. -/
def resume (rounds : Nat) (next : Except Fault ((List Bracket × List Char) ⊕ List Char)) :
    Except Fault (List Char) := do
  match ← next with
  | .inl (opened, rest) => walk .cursory rounds opened rest
  | .inr rest => return rest

@[simp] theorem resume_inl (rounds : Nat) (opened : List Bracket) (rest : List Char) :
    resume rounds (.ok (.inl (opened, rest))) = walk .cursory rounds opened rest :=
  rfl

/-- A walk leaves this text behind as one value.  It takes at most a round for each character. -/
structure Passes (cs : List Char) : Prop where
  begins : ∃ c more, cs = c :: more ∧ isBlank c = false ∧ c ≠ ']'
  walks : ∃ steps ≤ cs.length, ∀ rounds opened before rest, Blank before → Settled rest →
    walk .cursory (rounds + steps) opened (before ++ (cs ++ rest)) = resume rounds (walkOn .cursory opened rest)

/-! ## Scalars -/

def Head.IsScalar : Head → Prop
  | .list => False
  | .object => False
  | _ => True

section Scalars

variable {cs : List Char}

theorem walk_scalar {head : Head} {rest : List Char} (scalar : head.IsScalar)
    (reads : readHead .cursory cs = .ok (head, rest)) (rounds : Nat) (opened : List Bracket) :
    walk .cursory (rounds + 1) opened cs = resume rounds (walkOn .cursory opened rest) := by
  rw [walk, reads]
  cases head with
  | list => exact scalar.elim
  | object => exact scalar.elim
  | _ => rfl

theorem passes_scalar (head : Head) {c : Char} {more : List Char} (visible : isBlank c = false) (bracket : c ≠ ']')
    (scalar : head.IsScalar)
    (reads : ∀ rest, Settled rest → readHead .cursory (c :: more ++ rest) = .ok (head, rest)) :
    Passes (c :: more) where
  begins := ⟨c, more, rfl, visible, bracket⟩
  walks := by
    refine ⟨1, by simp, fun rounds opened before rest blank settled => ?_⟩
    have read := reads rest settled
    rw [← readHead_append blank] at read
    exact walk_scalar scalar read rounds opened

theorem readNumber_cursory {negative : Bool} {numeral : Numeral} {rest : List Char}
    (scanned : scanNumber .cursory negative cs = .ok (numeral, rest)) :
    readNumber .cursory negative cs = .ok (.integer 0, rest) := by
  rw [readNumber, scanned]
  rfl

theorem Magnitude.passes {numeral : Numeral} (magnitude : Magnitude cs numeral) : Passes cs := by
  obtain ⟨d, ds, front, digit⟩ := magnitude.begins
  have bracket : d ≠ ']' := by
    rintro rfl
    cases digit
  rw [front]
  refine passes_scalar (.integer 0) (isBlank_of_isDigit digit) bracket trivial fun rest settled => ?_
  have scanned := magnitude.scan .cursory false settled
  rw [front, List.cons_append] at scanned
  rw [List.cons_append, readHead_of_isDigit digit]
  exact readNumber_cursory scanned

theorem Magnitude.passes_negative {numeral : Numeral} (magnitude : Magnitude cs numeral) : Passes ('-' :: cs) :=
  passes_scalar (.integer 0) rfl (by decide) trivial fun _ settled =>
    readNumber_cursory (magnitude.scan .cursory true settled)

theorem Letters.passes (letters : Letters cs) : Passes (quote cs) := by
  obtain ⟨text, reads⟩ := letters.read []
  refine passes_scalar (.text (String.ofList text)) rfl (by decide) trivial fun rest _ => ?_
  have whole : quote cs ++ rest = '"' :: (cs ++ '"' :: rest) := by simp [quote]
  have front : skipBlanks ('"' :: (cs ++ '"' :: rest)) = '"' :: (cs ++ '"' :: rest) := rfl
  change readHead .cursory (quote cs ++ rest) = _
  simp only [whole, readHead, front, readText, reads]
  rfl

end Scalars

/-! ## Lists and objects -/

/-- A part of a list or an object comes down to this value: that is what is due next behind the opening bracket or a
comma. -/
structure Entry (b : Bracket) (part : List Char) (value : Padded) : Prop where
  passes : Passes value.content
  length_le : value.content.length ≤ part.length
  first : ∀ rounds opened before rest, Blank before →
    walk .cursory (rounds + 1) opened (before ++ b.opening :: (part ++ rest)) =
      walk .cursory rounds (b :: opened) (value.text ++ rest)
  later : ∀ outer before rest, Blank before →
    walkOn .cursory (b :: outer) (before ++ ',' :: (part ++ rest)) = .ok (.inl (b :: outer, value.text ++ rest))

section Brackets

variable {b : Bracket} {before : List Char}

theorem walkOn_closing (b : Bracket) (blank : Blank before) (outer : List Bracket) (rest : List Char) :
    walkOn .cursory (b :: outer) (before ++ b.closing :: rest) = walkOn .cursory outer rest := by
  cases b <;> simp only [walkOn, skipBlanks_append blank, Bracket.closing] <;> rfl

/-- Behind an opening bracket: what is inside, or the end of it all. -/
theorem walk_opening_list (blank : Blank before) (rounds : Nat) (opened : List Bracket) (rest : List Char) :
    walk .cursory (rounds + 1) opened (before ++ '[' :: rest) =
      resume rounds (match skipBlanks rest with
        | [] => .error .endInList
        | ']' :: rest => walkOn .cursory opened rest
        | _ :: _ => .ok (.inl (.list :: opened, rest))) := by
  have head : readHead .cursory ('[' :: rest) = .ok (.list, rest) := rfl
  rw [walk, readHead_append blank, head]
  -- Only wanted values have a limit on how deeply they are nested.
  simp only [reduceCtorEq, decide_false, Bool.false_and, Bool.false_eq_true, ↓reduceIte, bind, Except.bind]
  cases skipBlanks rest with
  | nil => rfl
  | cons c more =>
    by_cases closing : c = ']'
    · subst closing
      rfl
    · simp only
      rfl

theorem walk_opening_object (blank : Blank before) (rounds : Nat) (opened : List Bracket) (rest : List Char) :
    walk .cursory (rounds + 1) opened (before ++ '\x7b' :: rest) =
      resume rounds (match skipBlanks rest with
        | [] => .error .endInObject
        | '\x7d' :: rest => walkOn .cursory opened rest
        | '"' :: rest => (walkKey .cursory rest).map fun rest => .inl (.object :: opened, rest)
        | _ :: _ => .error .keyNotText) := by
  have head : readHead .cursory ('\x7b' :: rest) = .ok (.object, rest) := rfl
  rw [walk, readHead_append blank, head]
  simp only [reduceCtorEq, decide_false, Bool.false_and, Bool.false_eq_true, ↓reduceIte, bind, Except.bind]
  cases skipBlanks rest with
  | nil => rfl
  | cons c more =>
    by_cases closing : c = '\x7d'
    · subst closing
      rfl
    · by_cases name : c = '"'
      · subst name
        simp only
        cases walkKey .cursory more <;> rfl
      · simp only
        rfl

theorem walk_empty (b : Bracket) {between : List Char} (blank : Blank before) (empty : Blank between) (rounds : Nat)
    (opened : List Bracket) (rest : List Char) :
    walk .cursory (rounds + 1) opened (before ++ b.opening :: (between ++ b.closing :: rest)) =
      resume rounds (walkOn .cursory opened rest) := by
  cases b with
  | list =>
    rw [Bracket.opening, walk_opening_list blank, skipBlanks_append empty]
    rfl
  | object =>
    rw [Bracket.opening, walk_opening_object blank, skipBlanks_append empty]
    rfl

theorem Entry.walks {part : List Char} {value : Padded} (entry : Entry b part value) :
    ∃ steps ≤ part.length, ∀ rounds opened rest, Settled rest →
      walk .cursory (rounds + steps) opened (value.text ++ rest) =
        resume rounds (walkOn .cursory opened (value.after ++ rest)) := by
  obtain ⟨steps, few, walks⟩ := entry.passes.walks
  refine ⟨steps, Nat.le_trans few entry.length_le, fun rounds opened rest settled => ?_⟩
  have walked := walks rounds opened _ _ value.blank_before (settled.blank value.blank_after)
  simpa only [Padded.text, List.append_assoc] using walked

/-- From behind a value of the list or object to behind its closing bracket. -/
theorem resume_later {parts : List (List Char)} (entries : ∀ part ∈ parts, ∃ value, Entry b part value) :
    ∃ steps ≤ (parts.flatMap (',' :: ·)).length, ∀ rounds outer before rest, Blank before →
      resume (rounds + steps)
          (walkOn .cursory (b :: outer) (before ++ (parts.flatMap (',' :: ·) ++ b.closing :: rest))) =
        resume rounds (walkOn .cursory outer rest) := by
  induction parts with
  | nil =>
    refine ⟨0, Nat.le_refl 0, fun rounds outer before rest blank => ?_⟩
    rw [List.flatMap_nil, List.nil_append, walkOn_closing b blank]
    rfl
  | cons part parts ih =>
    obtain ⟨value, entry⟩ := entries part List.mem_cons_self
    obtain ⟨own, few, walks⟩ := entry.walks
    obtain ⟨others, fewOthers, resumes⟩ := ih fun part among => entries part (List.mem_cons_of_mem _ among)
    -- The rounds that the first value leaves over are those for the others.
    refine ⟨others + own, ?_, fun rounds outer before rest blank => ?_⟩
    · simp only [List.flatMap_cons, List.length_append, List.length_cons]
      omega
    · have settled := settled_flatMap_comma b.continuesNumber_closing parts rest
      rw [List.flatMap_cons, List.cons_append, List.cons_append, List.append_assoc, entry.later _ _ _ blank,
        resume_inl, ← Nat.add_assoc, walks _ _ _ settled]
      exact resumes _ _ _ _ value.blank_after

theorem Bracket.begins (b : Bracket) : isBlank b.opening = false ∧ b.opening ≠ ']' := by
  cases b <;> decide

theorem passes_bracket {inner : List Char} {parts : List (List Char)} (layout : Between inner parts)
    (entries : ∀ part ∈ parts, ∃ value, Entry b part value) : Passes (b.opening :: (inner ++ [b.closing])) where
  begins := ⟨_, _, rfl, b.begins⟩
  walks := by
    cases layout with
    | nothing empty =>
      refine ⟨1, by simp, fun rounds opened before rest blank _ => ?_⟩
      have walked := walk_empty b blank empty rounds opened rest
      simpa using walked
    | parts part parts =>
      obtain ⟨value, entry⟩ := entries part List.mem_cons_self
      obtain ⟨own, few, walks⟩ := entry.walks
      obtain ⟨others, fewOthers, resumes⟩ := resume_later fun part among => entries part (List.mem_cons_of_mem _ among)
      refine ⟨others + own + 1, ?_, fun rounds opened before rest blank _ => ?_⟩
      · simp only [separated_cons, List.length_append, List.length_cons, List.length_nil]
        omega
      · have settled := settled_flatMap_comma b.continuesNumber_closing parts rest
        have first := entry.first (rounds + others + own) opened before
          (parts.flatMap (',' :: ·) ++ b.closing :: rest) blank
        rw [walks _ _ _ settled, resumes _ _ _ _ value.blank_after] at first
        simpa [separated_cons, Nat.add_assoc] using first

end Brackets

theorem Passes.text_begins {p : Padded} (passes : Passes p.content) (rest : List Char) :
    ∃ c more, skipBlanks (p.text ++ rest) = c :: more ∧ c ≠ ']' := by
  obtain ⟨c, more, front, visible, bracket⟩ := passes.begins
  refine ⟨c, more ++ (p.after ++ rest), ?_, bracket⟩
  rw [Padded.text, List.append_assoc, skipBlanks_append p.blank_before, front]
  simp [visible]

/-- An item of a list. -/
theorem Entry.item {p : Padded} (passes : Passes p.content) : Entry .list p.text p where
  passes := passes
  length_le := by
    simp only [Padded.text, List.length_append]
    omega
  first rounds opened before rest blank := by
    obtain ⟨c, more, front, bracket⟩ := passes.text_begins rest
    rw [Bracket.opening, walk_opening_list blank, front]
    simp
  later outer before rest blank := by
    obtain ⟨c, more, front, bracket⟩ := passes.text_begins rest
    have comma : skipBlanks (',' :: (p.text ++ rest)) = ',' :: (p.text ++ rest) := rfl
    rw [walkOn, skipBlanks_append blank, comma]
    simp [front, bracket]

theorem Member.skipBlanks_text (m : Member) {letters : List Char} (name : m.name.content = quote letters)
    (rest : List Char) : skipBlanks (m.text ++ rest) =
      '"' :: (letters ++ '"' :: (m.name.after ++ ':' :: (m.value.text ++ rest))) := by
  rw [Member.text, Padded.text, name, quote, List.append_assoc, List.append_assoc, skipBlanks_append m.name.blank_before]
  simp [skipBlanks, isBlank]

theorem walkKey_of_letters {letters after : List Char} (isText : Letters letters) (blank : Blank after)
    (rest : List Char) : walkKey .cursory (letters ++ '"' :: (after ++ ':' :: rest)) = .ok rest := by
  obtain ⟨text, reads⟩ := isText.read []
  have colon : skipBlanks (':' :: rest) = ':' :: rest := rfl
  simp only [walkKey, readText, reads, skipBlanks_append blank, colon, bind, Except.bind]
  rfl

/-- A member of an object. -/
theorem Entry.member {m : Member} {letters : List Char} (isText : Letters letters) (name : m.name.content = quote letters)
    (passes : Passes m.value.content) : Entry .object m.text m.value where
  passes := passes
  length_le := by
    simp only [Member.text, Padded.text, List.length_append, List.length_cons]
    omega
  first rounds opened before rest blank := by
    have front := m.skipBlanks_text name rest
    have key := walkKey_of_letters isText m.name.blank_after (m.value.text ++ rest)
    rw [Bracket.opening, walk_opening_object blank, front]
    simp [key, Except.map]
  later outer before rest blank := by
    have front := m.skipBlanks_text name rest
    have key := walkKey_of_letters isText m.name.blank_after (m.value.text ++ rest)
    have comma : skipBlanks (',' :: (m.text ++ rest)) = ',' :: (m.text ++ rest) := rfl
    rw [walkOn, skipBlanks_append blank, comma]
    simp [front, key, Except.map]

/-! ## Values -/

theorem IsValue.passes {cs : List Char} (isValue : IsValue cs) : Passes cs := by
  induction isValue with
  | null => exact passes_scalar .null rfl (by decide) trivial fun _ _ => rfl
  | boolean b =>
    cases b with
    | false => exact passes_scalar (.boolean false) rfl (by decide) trivial fun _ _ => rfl
    | true => exact passes_scalar (.boolean true) rfl (by decide) trivial fun _ _ => rfl
  | positive magnitude => exact magnitude.passes
  | negative magnitude => exact magnitude.passes_negative
  | text letters => exact letters.passes
  | list layout _ passes =>
    refine passes_bracket (b := .list) layout fun part among => ?_
    obtain ⟨item, listed, rfl⟩ := List.mem_map.mp among
    exact ⟨item, .item (passes item listed)⟩
  | object layout names _ passes =>
    refine passes_bracket (b := .object) layout fun part among => ?_
    obtain ⟨m, listed, rfl⟩ := List.mem_map.mp among
    obtain ⟨letters, isText, name⟩ := names m listed
    exact ⟨m.value, .member isText name (passes m listed)⟩

/-- White space in front of a value does not matter, and what stands behind it is left. -/
theorem skipValue_of_isValue {before cs rest : List Char} (blank : Blank before) (isValue : IsValue cs)
    (settled : Settled rest) : skipValue (before ++ (cs ++ rest)) = .ok rest := by
  obtain ⟨steps, few, walks⟩ := isValue.passes.walks
  have enough : steps ≤ (before ++ (cs ++ rest)).length + 1 := by
    simp only [List.length_append]
    omega
  have walked := walks ((before ++ (cs ++ rest)).length + 1 - steps) [] before rest blank settled
  rw [Nat.sub_add_cancel enough] at walked
  exact walked

end Chip8Console.Json
