import Chip8Console.Json.Record
import Chip8Console.Proofs.Json.Grammar

/-! # Tokens of the grammar are read

Numbers and texts are read as far as the grammar says and as what it says, whatever follows them, and white space in
front of them does not matter.
-/

namespace Chip8Console.Json

/-! ## White space -/

theorem isBlank_iff {c : Char} : isBlank c ↔ c = ' ' ∨ c = '\n' ∨ c = '\t' ∨ c = '\r' := by
  simp [isBlank, or_assoc]

theorem skipBlanks_append {blanks : List Char} (blank : Blank blanks) (cs : List Char) :
    skipBlanks (blanks ++ cs) = skipBlanks cs :=
  List.dropWhile_append_of_pos blank

@[simp] theorem skipBlanks_of_not_isBlank {c : Char} (visible : isBlank c = false) (cs : List Char) :
    skipBlanks (c :: cs) = c :: cs := by
  simp [skipBlanks, visible]

theorem skipBlanks_blank {blanks : List Char} (blank : Blank blanks) : skipBlanks blanks = [] := by
  have same := skipBlanks_append blank []
  rwa [List.append_nil] at same

theorem readHead_append {blanks : List Char} (blank : Blank blanks) (manner : Manner) (cs : List Char) :
    readHead manner (blanks ++ cs) = readHead manner cs := by
  unfold readHead
  rw [skipBlanks_append blank]

/-! ## Numbers -/

/-- The characters that go on a number. -/
def continuesNumber (c : Char) : Bool :=
  c.isDigit || c = '.' || c = 'e' || c = 'E'

/-- A number in front of this text ends there. -/
def Settled (rest : List Char) : Prop :=
  ∀ c ∈ rest.head?, continuesNumber c = false

theorem settled_nil : Settled [] := by
  simp [Settled]

theorem settled_cons {c : Char} (ends : continuesNumber c = false) (rest : List Char) : Settled (c :: rest) := by
  simpa [Settled] using ends

theorem Settled.blank {blanks rest : List Char} (blank : Blank blanks) (settled : Settled rest) :
    Settled (blanks ++ rest) := by
  cases blanks with
  | nil => exact settled
  | cons c blanks =>
    refine settled_cons ?_ _
    rcases isBlank_iff.mp (blank c List.mem_cons_self) with rfl | rfl | rfl | rfl <;> rfl

/-- A run of digits in front of this text ends there. -/
def NoDigit (rest : List Char) : Prop :=
  ∀ c ∈ rest.head?, c.isDigit = false

theorem Settled.noDigit {rest : List Char} (settled : Settled rest) : NoDigit rest := by
  intro c isFirst
  have ends := settled c isFirst
  simp only [continuesNumber, Bool.or_eq_false_iff] at ends
  exact ends.1.1.1

section Run

variable {ds rest : List Char}

theorem takeWhile_isDigit_append (digits : ∀ d ∈ ds, d.isDigit) (ends : NoDigit rest) :
    (ds ++ rest).takeWhile Char.isDigit = ds := by
  rw [List.takeWhile_append_of_pos digits]
  cases rest with
  | nil => simp
  | cons c cs => simp [ends c rfl]

theorem dropWhile_isDigit_append (digits : ∀ d ∈ ds, d.isDigit) (ends : NoDigit rest) :
    (ds ++ rest).dropWhile Char.isDigit = rest := by
  rw [List.dropWhile_append_of_pos digits]
  cases rest with
  | nil => rfl
  | cons c cs => simp [ends c rfl]

end Run

section Numbers

variable {manner : Manner} {numeral : Numeral} {rest : List Char}

theorem scanExponent_of_digits {sign ds : List Char} {negative : Bool} (isSign : Sign sign negative)
    (digits : Digits ds) (ends : NoDigit rest) :
    scanExponent manner numeral (sign ++ (ds ++ rest)) =
      .ok ({ numeral with
        exponent := numeral.exponent + (if negative then -digitsValue ds else digitsValue ds : Int)
        whole := false }, rest) := by
  obtain ⟨some, all⟩ := digits
  have taken := takeWhile_isDigit_append all ends
  have left := dropWhile_isDigit_append all ends
  cases isSign with
  | none =>
    obtain ⟨d, more, rfl⟩ := List.exists_cons_of_ne_nil some
    have digit : d.isDigit := all d List.mem_cons_self
    -- A digit is not taken for a sign.
    have minus : d ≠ '-' := by
      rintro rfl
      cases digit
    have plus : d ≠ '+' := by
      rintro rfl
      cases digit
    rw [List.cons_append] at taken left
    simp [scanExponent, minus, plus, taken, left]
  | plus => simp [scanExponent, taken, left, some]
  | minus => simp [scanExponent, taken, left, some]

theorem scanScale_of_settled (settled : Settled rest) : scanScale manner numeral rest = .ok (numeral, rest) := by
  cases rest with
  | nil => rfl
  | cons c cs =>
    have ends := settled c rfl
    simp only [continuesNumber, Bool.or_eq_false_iff, decide_eq_false_iff_not] at ends
    obtain ⟨⟨-, lower⟩, upper⟩ := ends
    simp [scanScale, lower, upper]

theorem Scale.scan {cs : List Char} {power : Int} (scale : Scale cs power) (settled : Settled rest) :
    scanScale manner numeral (cs ++ rest) =
      .ok ({ numeral with
        exponent := numeral.exponent + power
        whole := numeral.whole && cs.isEmpty }, rest) := by
  cases scale with
  | none => simpa using scanScale_of_settled settled
  | @power letter sign ds negative isLetter isSign digits =>
    have scanned : scanExponent manner numeral (sign ++ (ds ++ rest)) = _ :=
      scanExponent_of_digits isSign digits settled.noDigit
    rw [List.cons_append, List.append_assoc]
    rcases isLetter with rfl | rfl <;> simpa [scanScale] using scanned

/-- What stands behind the digits of a number, begins with a point or a letter, if with anything. -/
theorem Scale.front {cs : List Char} {power : Int} (scale : Scale cs power) (settled : Settled rest) :
    ∀ c ∈ (cs ++ rest).head?, c.isDigit = false ∧ c ≠ '.' := by
  intro c isFirst
  cases scale with
  | none =>
    have ends := settled c isFirst
    simp only [continuesNumber, Bool.or_eq_false_iff, decide_eq_false_iff_not] at ends
    exact ends.1.1
  | power isLetter _ _ =>
    obtain rfl := Option.some.inj isFirst
    rcases isLetter with rfl | rfl
    · exact ⟨rfl, by decide⟩
    · exact ⟨rfl, by decide⟩

section Fractions

variable {fraction ds scale : List Char} {power : Int}

theorem Fraction.scan (isFraction : Fraction fraction ds) (isScale : Scale scale power) (settled : Settled rest)
    (unscaled : numeral.exponent = 0) :
    scanFraction manner numeral (fraction ++ (scale ++ rest)) =
      .ok ({ numeral with
        digits := appendDigits numeral.digits ds
        exponent := -ds.length + power
        whole := numeral.whole && (fraction ++ scale).isEmpty }, rest) := by
  have front := isScale.front settled
  cases isFraction with
  | none =>
    have same : scanFraction manner numeral (scale ++ rest) = scanScale manner numeral (scale ++ rest) := by
      unfold scanFraction
      split
      · next point =>
        rw [point] at front
        exact absurd rfl (front '.' rfl).2
      · rfl
    rw [List.nil_append, same, isScale.scan settled, unscaled]
    rfl
  | point digits =>
    obtain ⟨some, all⟩ := digits
    have ends : NoDigit (scale ++ rest) := fun c isFirst => (front c isFirst).1
    simp [scanFraction, takeWhile_isDigit_append all ends, dropWhile_isDigit_append all ends, some, isScale.scan settled]

theorem Fraction.noDigit (isFraction : Fraction fraction ds) (isScale : Scale scale power) (settled : Settled rest) :
    NoDigit (fraction ++ (scale ++ rest)) := by
  intro c isFirst
  cases isFraction with
  | none => exact (isScale.front settled c isFirst).1
  | point =>
    obtain rfl := Option.some.inj isFirst
    rfl

end Fractions

theorem Whole.scan {whole : List Char} (isWhole : Whole whole) (negative : Bool) (ends : NoDigit rest) :
    scanNumber manner negative (whole ++ rest) =
      scanFraction manner { negative, digits := digitsValue whole, exponent := 0, whole := true } rest := by
  cases isWhole with
  | zero =>
    have alone := takeWhile_isDigit_append (List.forall_mem_nil _) ends
    rw [List.nil_append] at alone
    simp only [List.cons_append, List.nil_append, scanNumber, alone]
    rfl
  | digits lead digits =>
    have taken := takeWhile_isDigit_append digits ends
    have left := dropWhile_isDigit_append digits ends
    rw [List.cons_append] at taken left ⊢
    simp [scanNumber, lead, taken, left]

theorem appendDigits_digitsValue (ds es : List Char) : appendDigits (digitsValue ds) es = digitsValue (ds ++ es) :=
  List.foldl_append.symm

/-- A number of the grammar is read to its end, and as what it stands for. -/
theorem Magnitude.scan {cs : List Char} (magnitude : Magnitude cs numeral) (manner : Manner) (negative : Bool)
    (settled : Settled rest) : scanNumber manner negative (cs ++ rest) = .ok ({ numeral with negative }, rest) := by
  obtain ⟨isWhole, isFraction, isScale⟩ := magnitude
  rw [List.append_assoc, List.append_assoc, isWhole.scan negative (isFraction.noDigit isScale settled),
    isFraction.scan isScale settled rfl, appendDigits_digitsValue]
  rfl

theorem Magnitude.begins {cs : List Char} (magnitude : Magnitude cs numeral) : ∃ d ds, cs = d :: ds ∧ d.isDigit := by
  obtain ⟨isWhole, -, -⟩ := magnitude
  cases isWhole with
  | zero => exact ⟨_, _, rfl, rfl⟩
  | digits _ digits => exact ⟨_, _, rfl, digits _ List.mem_cons_self⟩

end Numbers

theorem isBlank_of_isDigit {c : Char} (digit : c.isDigit) : isBlank c = false := by
  cases blank : isBlank c with
  | false => rfl
  | true =>
    simp only [isBlank, Bool.or_eq_true, decide_eq_true_eq] at blank
    rcases blank with ((rfl | rfl) | rfl) | rfl <;> cases digit

theorem readHead_of_isDigit {manner : Manner} {c : Char} (digit : c.isDigit) (cs : List Char) :
    readHead manner (c :: cs) = readNumber manner false (c :: cs) := by
  have front : skipBlanks (c :: cs) = c :: cs := by
    simp [skipBlanks, isBlank_of_isDigit digit]
  unfold readHead
  rw [front]
  split
  case h_9 same =>
    cases same
    rw [if_pos digit]
  -- No other value begins with a digit.
  all_goals
    next same => cases same <;> cases digit

/-! ## Texts -/

theorem readTextFrom_shortEscape {manner : Manner} {letter c : Char} (short : shortEscape? letter = some c)
    (read rest : List Char) :
    readTextFrom manner .plain read ('\\' :: letter :: rest) = readTextFrom manner .plain (c :: read) rest := by
  have other : letter ≠ 'u' := by
    rintro rfl
    cases short
  simp [readTextFrom, other, short]

/-- Where a text is passed over, it does not matter what it stands for. -/
theorem Letters.read {cs : List Char} (letters : Letters cs) (read : List Char) :
    ∃ text, ∀ rest, readTextFrom .cursory .plain read (cs ++ '"' :: rest) = .ok (text, rest) := by
  induction letters generalizing read with
  | nil => exact ⟨read.reverse, fun rest => by simp [readTextFrom]⟩
  | @plain c cs quote backslash control more ih =>
    obtain ⟨text, reads⟩ := ih (c :: read)
    exact ⟨text, fun rest => by simp [readTextFrom, quote, backslash, control, reads]⟩
  | @short letter cs known more ih =>
    obtain ⟨c, short⟩ := Option.isSome_iff_exists.mp known
    obtain ⟨text, reads⟩ := ih (c :: read)
    refine ⟨text, fun rest => ?_⟩
    rw [List.cons_append, List.cons_append, readTextFrom_shortEscape short]
    exact reads rest
  | @code a b c d cs digits more ih =>
    obtain ⟨a', hexA⟩ := Option.isSome_iff_exists.mp (digits a (by simp))
    obtain ⟨b', hexB⟩ := Option.isSome_iff_exists.mp (digits b (by simp))
    obtain ⟨c', hexC⟩ := Option.isSome_iff_exists.mp (digits c (by simp))
    obtain ⟨d', hexD⟩ := Option.isSome_iff_exists.mp (digits d (by simp))
    obtain ⟨text, reads⟩ := ih (Char.ofNat ((((0 * 16 + a') * 16 + b') * 16 + c') * 16 + d') :: read)
    exact ⟨text, fun rest => by simp [readTextFrom, hexA, hexB, hexC, hexD, ← reads rest]⟩

theorem codeUnit?_eq_some {a b c d : Char} {n : Nat} (value : codeUnit? a b c d = some n) :
    ∃ a' b' c' d', Text.hexValue? a = some a' ∧ Text.hexValue? b = some b' ∧ Text.hexValue? c = some c' ∧
      Text.hexValue? d = some d' ∧ ((a' * 16 + b') * 16 + c') * 16 + d' = n := by
  simpa [codeUnit?, Option.bind_eq_some_iff] using value

theorem isLowSurrogate_of_isHighSurrogate {n : Nat} (high : isHighSurrogate n) : isLowSurrogate n = false := by
  simp only [isHighSurrogate, Bool.and_eq_true, decide_eq_true_eq] at high
  simp only [isLowSurrogate, Bool.and_eq_false_iff, decide_eq_false_iff_not]
  omega

theorem Spells.read {cs text : List Char} (spells : Spells cs text) (read rest : List Char) :
    readTextFrom .thorough .plain read (cs ++ '"' :: rest) = .ok (read.reverse ++ text, rest) := by
  induction spells generalizing read with
  | nil => simp [readTextFrom]
  | plain quote backslash control more ih =>
    simp [readTextFrom, quote, backslash, control, ih]
  | short known more ih =>
    rw [List.cons_append, List.cons_append, readTextFrom_shortEscape known, ih]
    simp
  | code value noHigh noLow more ih =>
    obtain ⟨a', b', c', d', hexA, hexB, hexC, hexD, rfl⟩ := codeUnit?_eq_some value
    simp [readTextFrom, hexA, hexB, hexC, hexD, noHigh, noLow, ih]
  | pair first isHigh second isLow more ih =>
    obtain ⟨a', b', c', d', hexA, hexB, hexC, hexD, rfl⟩ := codeUnit?_eq_some first
    obtain ⟨e', f', g', h', hexE, hexF, hexG, hexH, rfl⟩ := codeUnit?_eq_some second
    have notLow := isLowSurrogate_of_isHighSurrogate isHigh
    simp [readTextFrom, hexA, hexB, hexC, hexD, hexE, hexF, hexG, hexH, isHigh, notLow, isLow, ih]

theorem Names.read {cs : List Char} {name : String} (names : Names cs name) (rest : List Char) :
    ∃ letters, cs ++ rest = '"' :: letters ∧ readText .thorough letters = .ok (name.toList, rest) := by
  obtain ⟨letters, rfl, spells⟩ := names
  refine ⟨letters ++ '"' :: rest, by simp [quote], ?_⟩
  rw [readText, spells.read]
  rfl

theorem codeUnit?_digits {a b c d : Char} {n : Nat} (value : codeUnit? a b c d = some n) :
    ∀ x ∈ [a, b, c, d], (Text.hexValue? x).isSome := by
  obtain ⟨a', b', c', d', hexA, hexB, hexC, hexD, -⟩ := codeUnit?_eq_some value
  simp [hexA, hexB, hexC, hexD]

theorem Spells.letters {cs text : List Char} (spells : Spells cs text) : Letters cs := by
  induction spells with
  | nil => exact .nil
  | plain quote backslash control _ more => exact .plain quote backslash control more
  | short known _ more => exact .short (Option.isSome_of_eq_some known) more
  | code value _ _ _ more => exact .code (codeUnit?_digits value) more
  | pair first _ second _ _ more => exact .code (codeUnit?_digits first) (.code (codeUnit?_digits second) more)

end Chip8Console.Json
