import Chip8Console.Proofs.Json.Scanning

/-! # Written tokens read back

What is written for a text or a number is of the grammar, and so it is read as that text or number.  A list or an object
of written values is a value again.
-/

namespace Chip8Console.Json

/-! ## Texts -/

theorem writeChar_cases (c : Char) :
    (∃ letter, shortEscape? letter = some c ∧ writeChar c = ['\\', letter]) ∨
    (c.toNat < 0x20 ∧
      writeChar c = ['\\', 'u', '0', '0', Text.hexDigit (c.toNat / 16), Text.hexDigit (c.toNat % 16)]) ∨
    (c ≠ '"' ∧ c ≠ '\\' ∧ ¬c.toNat < 0x20 ∧ writeChar c = [c]) := by
  unfold writeChar
  -- Seven characters are escaped by a letter.
  iterate 7
    split
    next same =>
      subst same
      exact .inl ⟨_, rfl, rfl⟩
  split
  next control => exact .inr (.inl ⟨control, rfl⟩)
  next quote backslash _ _ _ _ _ control => exact .inr (.inr ⟨quote, backslash, control, rfl⟩)

theorem spells_writeChar (c : Char) {cs text : List Char} (more : Spells cs text) :
    Spells (writeChar c ++ cs) (c :: text) := by
  rcases writeChar_cases c with ⟨letter, short, written⟩ | ⟨control, written⟩ | ⟨quote, backslash, control, written⟩
  · rw [written]
    exact .short short more
  · rw [written]
    have value : codeUnit? '0' '0' (Text.hexDigit (c.toNat / 16)) (Text.hexDigit (c.toNat % 16)) = some c.toNat := by
      have high := Text.hexValue?_hexDigit (show c.toNat / 16 < 16 by omega)
      have low := Text.hexValue?_hexDigit (show c.toNat % 16 < 16 by omega)
      have zero : Text.hexValue? '0' = some 0 := rfl
      simp [codeUnit?, zero, high, low]
      omega
    have noHigh : isHighSurrogate c.toNat = false := by
      simp [isHighSurrogate]
      omega
    have noLow : isLowSurrogate c.toNat = false := by
      simp [isLowSurrogate]
      omega
    have spells := Spells.code value noHigh noLow more
    rwa [Char.ofNat_toNat] at spells
  · rw [written]
    exact .plain quote backslash control more

theorem spells_written (cs : List Char) : Spells (cs.flatMap writeChar) cs := by
  induction cs with
  | nil => exact .nil
  | cons c cs ih =>
    rw [List.flatMap_cons]
    exact spells_writeChar c ih

/-- A text that is written spells itself. -/
theorem names_writeString (s : String) : Names (writeString s) s :=
  ⟨s.toList.flatMap writeChar, rfl, spells_written s.toList⟩

theorem readText_writeString (s : String) (rest : List Char) :
    readText .thorough (s.toList.flatMap writeChar ++ '"' :: rest) = .ok (s.toList, rest) := by
  rw [readText, (spells_written s.toList).read]
  rfl

theorem readHead_writeString (s : String) (rest : List Char) :
    readHead .thorough (writeString s ++ rest) = .ok (.text s, rest) := by
  have front : skipBlanks ('"' :: (s.toList.flatMap writeChar ++ '"' :: rest)) =
      '"' :: (s.toList.flatMap writeChar ++ '"' :: rest) := rfl
  simp [readHead, writeString, front, readText_writeString, bind, Except.bind, pure, Except.pure]

/-! ## Numbers -/

theorem digitsValue_toDigits (n : Nat) : digitsValue (Nat.toDigits 10 n) = n := by
  have same : digitsValue (Nat.toDigits 10 n) = Nat.ofDigitChars 10 (Nat.toDigits 10 n) 0 := by
    simp only [digitsValue, appendDigits, Nat.ofDigitChars, Nat.mul_comm]
  rw [same, Nat.ofDigitChars_ten_toDigits]

/-- Only zero is written with a zero in front. -/
theorem toDigits_eq_cons (n : Nat) : ∃ d ds, Nat.toDigits 10 n = d :: ds ∧ (d = '0' → n = 0) := by
  induction n using Nat.strongRecOn with
  | ind n ih =>
    by_cases small : n < 10
    · have lead : ∀ k : Fin 10, k.val.digitChar = '0' → k.val = 0 := by decide
      exact ⟨_, [], Nat.toDigits_of_lt_base small, lead ⟨n, small⟩⟩
    · -- The digits begin with those of the tenth part.
      obtain ⟨d, ds, front, lead⟩ := ih (n / 10) (by omega)
      refine ⟨d, ds ++ [(n % 10).digitChar], ?_, fun zero => ?_⟩
      · rw [Nat.toDigits_of_base_le (by decide) (by omega), front, List.cons_append]
      · have := lead zero
        omega

theorem magnitude_writeNat (n : Nat) :
    Magnitude (writeNat n) { negative := false, digits := n, exponent := 0, whole := true } := by
  have whole : Whole (writeNat n) := by
    obtain ⟨d, ds, front, lead⟩ := toDigits_eq_cons n
    by_cases zero : d = '0'
    · obtain rfl := lead zero
      exact .zero
    · rw [writeNat, front]
      exact .digits zero fun c among => Nat.isDigit_of_mem_toDigits (by decide) (by decide) (front ▸ among)
  have magnitude := Magnitude.mk whole .none .none
  rw [List.append_nil, List.append_nil, writeNat, digitsValue_toDigits] at magnitude
  exact magnitude

theorem readHead_writeNat {n : Nat} (bound : n < UInt64.size) {rest : List Char} (settled : Settled rest) :
    readHead .thorough (writeNat n ++ rest) = .ok (.integer n, rest) := by
  have scanned := (magnitude_writeNat n).scan .thorough false settled
  obtain ⟨d, ds, front, digit⟩ := (magnitude_writeNat n).begins
  rw [front, List.cons_append] at scanned ⊢
  rw [readHead_of_isDigit digit, readNumber, scanned]
  simp [Numeral.head, bound, bind, Except.bind, pure, Except.pure]

/-! ## Lists and objects -/

theorem between_separated (parts : List (List Char)) : Between (separated parts) parts := by
  cases parts with
  | nil => exact .nothing .nil
  | cons part parts => exact .parts part parts

theorem isValue_writeList {values : List (List Char)} (all : ∀ value ∈ values, IsValue value) :
    IsValue (writeList values) := by
  have texts : (values.map Padded.tight).map Padded.text = values := by simp [Function.comp_def]
  have layout : Between (separated values) ((values.map Padded.tight).map Padded.text) := by
    rw [texts]
    exact between_separated values
  refine .list layout fun item among => ?_
  obtain ⟨value, listed, rfl⟩ := List.mem_map.mp among
  exact all value listed

/-- A member as it is written. -/
def Member.written (m : String × List Char) : Member where
  name := .tight (writeString m.1)
  value := .tight m.2

@[simp] theorem Member.text_written (m : String × List Char) : (Member.written m).text = writeMember m.1 m.2 := by
  simp [Member.written, Member.text, writeMember]

theorem isValue_writeObject {members : List (String × List Char)} (all : ∀ m ∈ members, IsValue m.2) :
    IsValue (writeObject members) := by
  have texts : (members.map Member.written).map Member.text = members.map fun m => writeMember m.1 m.2 := by
    simp [Function.comp_def]
  have layout : Between (separated (members.map fun m => writeMember m.1 m.2))
      ((members.map Member.written).map Member.text) := by
    rw [texts]
    exact between_separated _
  refine .object layout (fun m among => ?_) (fun m among => ?_)
  · obtain ⟨m, listed, rfl⟩ := List.mem_map.mp among
    obtain ⟨letters, quoted, spells⟩ := names_writeString m.1
    exact ⟨letters, spells.letters, quoted⟩
  · obtain ⟨m, listed, rfl⟩ := List.mem_map.mp among
    exact all m listed

end Chip8Console.Json
