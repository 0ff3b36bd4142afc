import Chip8Console.Json.Scan
import Chip8Console.Json.Write

/-! # The grammar of JSON

What a JSON text may look like, said without a reader: `IsValue` are the texts that are a value, whatever it stands for,
`Spells` are the ways to write the characters of a text, and `Member` is a member of an object with the white space
around its name and its value.
-/

namespace Chip8Console.Json

/-- White space. -/
def Blank (cs : List Char) : Prop :=
  ∀ c ∈ cs, isBlank c

theorem Blank.nil : Blank [] :=
  List.forall_mem_nil _

/-! ## Numbers -/

/-- A run of at least one digit. -/
def Digits (cs : List Char) : Prop :=
  cs ≠ [] ∧ ∀ c ∈ cs, c.isDigit

/-- What stands before the point of a number.  A zero is the only digit, or it is not the first one. -/
inductive Whole : List Char → Prop where
  | zero : Whole ['0']
  | digits {d : Char} {ds : List Char} (lead : d ≠ '0') (digits : ∀ c ∈ d :: ds, c.isDigit) : Whole (d :: ds)

/-- The point of a number and these digits behind it, or neither. -/
inductive Fraction : List Char → List Char → Prop where
  | none : Fraction [] []
  | point {ds : List Char} (digits : Digits ds) : Fraction ('.' :: ds) ds

/-- The sign of a power, and whether it is a minus. -/
inductive Sign : List Char → Bool → Prop where
  | none : Sign [] false
  | plus : Sign ['+'] false
  | minus : Sign ['-'] true

/-- The power of ten by which a number is scaled; where none is written, it is scaled by one. -/
inductive Scale : List Char → Int → Prop where
  | none : Scale [] 0
  | power {letter : Char} {sign ds : List Char} {negative : Bool} (isLetter : letter = 'e' ∨ letter = 'E')
      (isSign : Sign sign negative) (digits : Digits ds) :
      Scale (letter :: (sign ++ ds)) (if negative then -digitsValue ds else digitsValue ds)

/-- A number without its sign, and what it stands for. -/
inductive Magnitude : List Char → Numeral → Prop where
  | mk {whole fraction ds scale : List Char} {power : Int} (isWhole : Whole whole) (isFraction : Fraction fraction ds)
      (isScale : Scale scale power) :
      Magnitude (whole ++ (fraction ++ scale))
        { negative := false
          digits := digitsValue (whole ++ ds)
          exponent := -ds.length + power
          whole := (fraction ++ scale).isEmpty }

/-! ## Texts -/

/-- What stands between the quotes of a text. -/
inductive Letters : List Char → Prop where
  | nil : Letters []
  | plain {c : Char} {cs : List Char} (quote : c ≠ '"') (backslash : c ≠ '\\') (control : ¬c.toNat < 0x20)
      (more : Letters cs) : Letters (c :: cs)
  | short {letter : Char} {cs : List Char} (known : (shortEscape? letter).isSome) (more : Letters cs) :
      Letters ('\\' :: letter :: cs)
  | code {a b c d : Char} {cs : List Char} (digits : ∀ x ∈ [a, b, c, d], (Text.hexValue? x).isSome)
      (more : Letters cs) : Letters ('\\' :: 'u' :: a :: b :: c :: d :: cs)

def quote (cs : List Char) : List Char :=
  '"' :: (cs ++ ['"'])

/-- The number that four digits of an escape make. -/
def codeUnit? (a b c d : Char) : Option Nat := do
  let a ← Text.hexValue? a
  let b ← Text.hexValue? b
  let c ← Text.hexValue? c
  let d ← Text.hexValue? d
  return ((a * 16 + b) * 16 + c) * 16 + d

/-- Between quotes, these characters stand for that text.  What has no code unit of its own is escaped by two, which may
not stand alone. -/
inductive Spells : List Char → List Char → Prop where
  | nil : Spells [] []
  | plain {c : Char} {cs text : List Char} (quote : c ≠ '"') (backslash : c ≠ '\\') (control : ¬c.toNat < 0x20)
      (more : Spells cs text) : Spells (c :: cs) (c :: text)
  | short {letter c : Char} {cs text : List Char} (known : shortEscape? letter = some c) (more : Spells cs text) :
      Spells ('\\' :: letter :: cs) (c :: text)
  | code {a b c d : Char} {n : Nat} {cs text : List Char} (value : codeUnit? a b c d = some n)
      (noHigh : isHighSurrogate n = false) (noLow : isLowSurrogate n = false) (more : Spells cs text) :
      Spells ('\\' :: 'u' :: a :: b :: c :: d :: cs) (Char.ofNat n :: text)
  | pair {a b c d a' b' c' d' : Char} {high low : Nat} {cs text : List Char} (first : codeUnit? a b c d = some high)
      (isHigh : isHighSurrogate high) (second : codeUnit? a' b' c' d' = some low) (isLow : isLowSurrogate low)
      (more : Spells cs text) :
      Spells ('\\' :: 'u' :: a :: b :: c :: d :: '\\' :: 'u' :: a' :: b' :: c' :: d' :: cs) (pairedChar high low :: text)

/-- A text as it stands in JSON. -/
def Names (cs : List Char) (name : String) : Prop :=
  ∃ letters, cs = quote letters ∧ Spells letters name.toList

/-! ## Lists and objects -/

/-- A value or a name with the white space around it. -/
structure Padded where
  before : List Char
  content : List Char
  after : List Char
  blank_before : Blank before
  blank_after : Blank after

namespace Padded

def text (p : Padded) : List Char :=
  p.before ++ (p.content ++ p.after)

/-- Without any white space. -/
def tight (content : List Char) : Padded where
  before := []
  content
  after := []
  blank_before := .nil
  blank_after := .nil

@[simp] theorem text_tight (content : List Char) : (tight content).text = content := by
  simp [text, tight]

end Padded

structure Member where
  name : Padded
  value : Padded

def Member.text (m : Member) : List Char :=
  m.name.text ++ ':' :: m.value.text

/-- What stands between the brackets of a list or an object with these parts. -/
inductive Between : List Char → List (List Char) → Prop where
  | nothing {blanks : List Char} (blank : Blank blanks) : Between blanks []
  | parts (part : List Char) (parts : List (List Char)) : Between (separated (part :: parts)) (part :: parts)

/-! ## Values -/

/-- A text that is one value, without white space around it. -/
inductive IsValue : List Char → Prop where
  | null : IsValue "null".toList
  | boolean (b : Bool) : IsValue (writeBool b)
  | positive {cs : List Char} {numeral : Numeral} (magnitude : Magnitude cs numeral) : IsValue cs
  | negative {cs : List Char} {numeral : Numeral} (magnitude : Magnitude cs numeral) : IsValue ('-' :: cs)
  | text {cs : List Char} (letters : Letters cs) : IsValue (quote cs)
  | list {inner : List Char} {items : List Padded} (layout : Between inner (items.map Padded.text))
      (values : ∀ item ∈ items, IsValue item.content) : IsValue ('[' :: (inner ++ [']']))
  | object {inner : List Char} {members : List Member} (layout : Between inner (members.map Member.text))
      (names : ∀ m ∈ members, ∃ letters, Letters letters ∧ m.name.content = quote letters)
      (values : ∀ m ∈ members, IsValue m.value.content) : IsValue ('\x7b' :: (inner ++ ['\x7d']))

end Chip8Console.Json
