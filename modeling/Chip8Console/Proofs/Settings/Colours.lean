import Chip8Console.Settings
import Mathlib.Data.List.Basic

/-! # Colours as they are written

A colour is written as a hash sign and six hexadecimal digits in either case, two for each channel (`Colour.Written`).
Every text of this form is read as its colour, and so is what `Colour.text` writes.  But a channel is also read where a
plus sign stands in place of its first digit (`Colour.Accepted`), so that more texts than these are colours.
`foreground_read_iff` says which ones, and what becomes of all others.
-/

namespace Chip8Console

/-! ## Digits -/

namespace Text

def lowerDigits : List Char :=
  ['0', '1', '2', '3', '4', '5', '6', '7', '8', '9', 'a', 'b', 'c', 'd', 'e', 'f']

def upperDigits : List Char :=
  ['0', '1', '2', '3', '4', '5', '6', '7', '8', '9', 'A', 'B', 'C', 'D', 'E', 'F']

/-- A hexadecimal digit, in either case, and its value. -/
def HexDigit (c : Char) (value : Nat) : Prop :=
  lowerDigits[value]? = some c ∨ upperDigits[value]? = some c

instance (c : Char) (value : Nat) : Decidable (HexDigit c value) :=
  inferInstanceAs (Decidable (_ ∨ _))

theorem HexDigit.lt {c : Char} {value : Nat} (digit : HexDigit c value) : value < 16 := by
  rcases digit with lower | upper
  · exact (List.getElem?_eq_some_iff.mp lower).1
  · exact (List.getElem?_eq_some_iff.mp upper).1

/-- If each character from `low` to `high` is the digit of its distance from `low`, counted from `first` on, then a
character between the two is a digit. -/
theorem hexDigit_of_between {c low high : Char} (first : Nat)
    (digits : ∀ n ≤ high.toNat - low.toNat, HexDigit (Char.ofNat (low.toNat + n)) (n + first))
    (between : low ≤ c && c ≤ high) : HexDigit c (c.toNat - low.toNat + first) := by
  simp only [Bool.and_eq_true, decide_eq_true_eq, Char.le_def, UInt32.le_iff_toNat_le, Char.toNat_val] at between
  have place : low.toNat + (c.toNat - low.toNat) = c.toNat := by omega
  have digit := digits (c.toNat - low.toNat) (by omega)
  rwa [place, Char.ofNat_toNat] at digit

theorem hexValue?_eq_some_iff {c : Char} {value : Nat} : hexValue? c = some value ↔ HexDigit c value := by
  constructor
  · intro read
    unfold hexValue? at read
    split at read
    next range =>
      cases read
      exact hexDigit_of_between 0 (by decide) range
    split at read
    next range =>
      cases read
      exact hexDigit_of_between 10 (by decide) range
    split at read
    next range =>
      cases read
      exact hexDigit_of_between 10 (by decide) range
    · cases read
  · intro digit
    have reads : ∀ n < 16, lowerDigits[n]?.bind hexValue? = some n ∧ upperDigits[n]?.bind hexValue? = some n := by
      decide
    have small := digit.lt
    cases digit with
    | inl isLower => simpa [isLower] using (reads value small).1
    | inr isUpper => simpa [isUpper] using (reads value small).2

end Text

namespace Colour

/-! ## Channels -/

/-- Two digits, and the byte that they stand for. -/
def HexPair (a b : Char) (byte : UInt8) : Prop :=
  ∃ high low, Text.HexDigit a high ∧ Text.HexDigit b low ∧ byte.toNat = high * 16 + low

/-- A plus sign and one digit. -/
def SignedDigit (a b : Char) (byte : UInt8) : Prop :=
  a = '+' ∧ Text.HexDigit b byte.toNat

theorem HexPair.ne_plus {a b : Char} {byte : UInt8} (pair : HexPair a b byte) : a ≠ '+' ∧ b ≠ '+' := by
  have noDigit : ∀ value < 16, ¬Text.HexDigit '+' value := by decide
  obtain ⟨high, low, first, second, -⟩ := pair
  constructor
  · rintro rfl
    exact noDigit high first.lt first
  · rintro rfl
    exact noDigit low second.lt second

theorem ofNat_eq_iff {n : Nat} (small : n < 256) {byte : UInt8} : UInt8.ofNat n = byte ↔ byte.toNat = n := by
  rw [← UInt8.toNat_inj, UInt8.toNat_ofNat_of_lt' small]
  exact eq_comm

theorem channel?_eq_some_iff {a b : Char} {byte : UInt8} :
    channel? a b = some byte ↔ HexPair a b byte ∨ SignedDigit a b byte := by
  by_cases signed : a = '+'
  · have noPair : ¬HexPair a b byte := fun pair => pair.ne_plus.1 signed
    simp only [channel?, signed, ↓reduceIte, Option.map_eq_some_iff, Text.hexValue?_eq_some_iff]
    rw [signed] at noPair
    constructor
    · rintro ⟨low, digit, rfl⟩
      have small := digit.lt
      right
      exact ⟨rfl, by rwa [(ofNat_eq_iff (by omega)).mp rfl]⟩
    · rintro (pair | ⟨-, digit⟩)
      · exact absurd pair noPair
      · exact ⟨_, digit, UInt8.ofNat_toNat⟩
  · simp only [channel?, signed, SignedDigit, HexPair, Option.bind_eq_bind, Option.bind_eq_some_iff,
      Option.pure_def, Option.some.injEq, Text.hexValue?_eq_some_iff, false_and, or_false, if_false]
    refine exists_congr fun high => ?_
    constructor
    · rintro ⟨first, low, second, value⟩
      have small := first.lt
      have small' := second.lt
      exact ⟨low, first, second, (ofNat_eq_iff (by omega)).mp value⟩
    · rintro ⟨low, first, second, value⟩
      have small := first.lt
      have small' := second.lt
      exact ⟨first, low, second, (ofNat_eq_iff (by omega)).mpr value⟩

/-! ## Texts -/

/-- A hash sign and three pairs of characters, each of which is the spelling of a channel. -/
def Spelled (channel : Char → Char → UInt8 → Prop) (s : String) (colour : Colour) : Prop :=
  ∃ a b c d e f, s.toList = ['#', a, b, c, d, e, f] ∧
    channel a b colour.red ∧ channel c d colour.green ∧ channel e f colour.blue

/-- The form in which a colour is to be written: each channel in two digits. -/
def Written : String → Colour → Prop :=
  Spelled HexPair

/-- Each channel is in two digits, or in a plus sign and one. -/
def Accepted : String → Colour → Prop :=
  Spelled fun a b byte => HexPair a b byte ∨ SignedDigit a b byte

/-- A hash sign and six ASCII characters. -/
def Shaped (s : String) : Prop :=
  ∃ cs, s.toList = '#' :: cs ∧ cs.length = 6 ∧ ∀ c ∈ cs, isAscii c

theorem Written.accepted {s : String} {colour : Colour} (written : Written s colour) : Accepted s colour := by
  obtain ⟨a, b, c, d, e, f, form, red, green, blue⟩ := written
  exact ⟨a, b, c, d, e, f, form, .inl red, .inl green, .inl blue⟩

theorem Written.no_plus {s : String} {colour : Colour} (written : Written s colour) : '+' ∉ s.toList := by
  obtain ⟨a, b, c, d, e, f, form, red, green, blue⟩ := written
  obtain ⟨ha, hb⟩ := red.ne_plus
  obtain ⟨hc, hd⟩ := green.ne_plus
  obtain ⟨he, hf⟩ := blue.ne_plus
  simp [form, ha.symm, hb.symm, hc.symm, hd.symm, he.symm, hf.symm]

/-- Without a plus sign each channel is in two digits. -/
theorem Accepted.written {s : String} {colour : Colour} (accepted : Accepted s colour) (plain : '+' ∉ s.toList) :
    Written s colour := by
  obtain ⟨a, b, c, d, e, f, form, red, green, blue⟩ := accepted
  simp only [form, List.mem_cons, not_or] at plain
  obtain ⟨-, ha, -, hc, -, he, -⟩ := plain
  refine ⟨a, b, c, d, e, f, form, red.resolve_right ?_, green.resolve_right ?_, blue.resolve_right ?_⟩
  · exact fun signed => ha signed.1.symm
  · exact fun signed => hc signed.1.symm
  · exact fun signed => he signed.1.symm

theorem isAscii_of_hexDigit {c : Char} {value : Nat} (digit : Text.HexDigit c value) : isAscii c := by
  have ascii : (Text.lowerDigits ++ Text.upperDigits).all (isAscii ·) := by decide
  apply List.all_eq_true.mp ascii
  rw [List.mem_append]
  exact digit.imp List.mem_of_getElem? List.mem_of_getElem?

theorem isAscii_of_channel {a b : Char} {byte : UInt8} (channel : HexPair a b byte ∨ SignedDigit a b byte) :
    isAscii a ∧ isAscii b := by
  rcases channel with ⟨high, low, first, second, -⟩ | ⟨rfl, digit⟩
  · exact ⟨isAscii_of_hexDigit first, isAscii_of_hexDigit second⟩
  · exact ⟨rfl, isAscii_of_hexDigit digit⟩

theorem Accepted.shaped {s : String} {colour : Colour} (accepted : Accepted s colour) : Shaped s := by
  obtain ⟨a, b, c, d, e, f, form, red, green, blue⟩ := accepted
  obtain ⟨ha, hb⟩ := isAscii_of_channel red
  obtain ⟨hc, hd⟩ := isAscii_of_channel green
  obtain ⟨he, hf⟩ := isAscii_of_channel blue
  exact ⟨_, form, rfl, by simp [ha, hb, hc, hd, he, hf]⟩

/-! ## Reading -/

theorem parse_of_not_shaped {s : String} (formless : ¬Shaped s) : parse s = .error .shape := by
  unfold parse
  split
  next a b c d e f form =>
    have other : ¬[a, b, c, d, e, f].all isAscii := by
      intro ascii
      exact formless ⟨_, form, rfl, List.all_eq_true.mp ascii⟩
    rw [if_neg other]
  · rfl

theorem Shaped.form {s : String} (shaped : Shaped s) : ∃ a b c d e f, s.toList = ['#', a, b, c, d, e, f] := by
  obtain ⟨cs, form, six, -⟩ := shaped
  match cs, six with
  | [a, b, c, d, e, f], _ => exact ⟨a, b, c, d, e, f, form⟩

theorem parse_of_shaped {s : String} (shaped : Shaped s) {a b c d e f : Char}
    (form : s.toList = ['#', a, b, c, d, e, f]) :
    parse s = match channel? a b, channel? c d, channel? e f with
      | some red, some green, some blue => .ok { red, green, blue }
      | _, _, _ => .error .digits := by
  obtain ⟨cs, form', -, ascii⟩ := shaped
  simp only [form, List.cons.injEq, true_and] at form'
  subst form'
  rw [parse, form]
  exact if_pos (List.all_eq_true.mpr ascii)

theorem parse_eq_ok_iff {s : String} {colour : Colour} : parse s = .ok colour ↔ Accepted s colour := by
  constructor
  · intro read
    by_cases shaped : Shaped s
    · obtain ⟨a, b, c, d, e, f, form⟩ := shaped.form
      rw [parse_of_shaped shaped form] at read
      cases red : channel? a b <;> cases green : channel? c d <;> cases blue : channel? e f <;>
        simp only [red, green, blue, Except.ok.injEq, reduceCtorEq] at read
      subst read
      exact ⟨a, b, c, d, e, f, form, channel?_eq_some_iff.mp red, channel?_eq_some_iff.mp green,
        channel?_eq_some_iff.mp blue⟩
    · rw [parse_of_not_shaped shaped] at read
      cases read
  · intro accepted
    have shaped := accepted.shaped
    obtain ⟨a, b, c, d, e, f, form, red, green, blue⟩ := accepted
    rw [parse_of_shaped shaped form, channel?_eq_some_iff.mpr red, channel?_eq_some_iff.mpr green,
      channel?_eq_some_iff.mpr blue]

theorem parse_eq_shape_iff {s : String} : parse s = .error .shape ↔ ¬Shaped s := by
  constructor
  · intro refused shaped
    obtain ⟨a, b, c, d, e, f, form⟩ := shaped.form
    rw [parse_of_shaped shaped form] at refused
    split at refused <;> cases refused
  · exact parse_of_not_shaped

theorem parse_eq_digits_iff {s : String} : parse s = .error .digits ↔ Shaped s ∧ ∀ colour, ¬Accepted s colour := by
  constructor
  · intro refused
    constructor
    · by_contra formless
      rw [parse_of_not_shaped formless] at refused
      cases refused
    · intro colour accepted
      rw [parse_eq_ok_iff.mpr accepted] at refused
      cases refused
  · rintro ⟨shaped, other⟩
    cases parsed : parse s with
    | ok colour => exact absurd (parse_eq_ok_iff.mp parsed) (other colour)
    | error cause =>
      cases cause with
      | shape => exact absurd shaped (parse_eq_shape_iff.mp parsed)
      | digits => rfl

/-! ## Writing -/

/-- A byte in two digits. -/
def pairText (byte : UInt8) : List Char :=
  [Text.hexDigit (byte.toNat / 16), Text.hexDigit (byte.toNat % 16)]

/-- A colour as it is written, in lower case. -/
def text (colour : Colour) : String :=
  String.ofList ('#' :: (pairText colour.red ++ pairText colour.green ++ pairText colour.blue))

theorem hexPair_pairText (byte : UInt8) :
    HexPair (Text.hexDigit (byte.toNat / 16)) (Text.hexDigit (byte.toNat % 16)) byte := by
  have bound : byte.toNat < 256 := byte.toNat_lt
  have high := Text.hexValue?_hexDigit (show byte.toNat / 16 < 16 by omega)
  have low := Text.hexValue?_hexDigit (show byte.toNat % 16 < 16 by omega)
  exact ⟨_, _, Text.hexValue?_eq_some_iff.mp high, Text.hexValue?_eq_some_iff.mp low, by omega⟩

theorem written_text (colour : Colour) : Written colour.text colour := by
  unfold text Written Spelled
  rw [String.toList_ofList]
  exact ⟨_, _, _, _, _, _, rfl, hexPair_pairText _, hexPair_pairText _, hexPair_pairText _⟩

end Colour

namespace Settings

theorem foregroundColour_eq_ok_iff {settings : Settings} {colour : Colour} :
    settings.foregroundColour = .ok colour ↔ Colour.parse settings.foreground = .ok colour := by
  unfold foregroundColour
  cases Colour.parse settings.foreground <;> simp [Except.mapError]

theorem foregroundColour_eq_error_iff {settings : Settings} {cause : ColourFault} :
    settings.foregroundColour = .error (.settings (.colour cause settings.foreground)) ↔
      Colour.parse settings.foreground = .error cause := by
  unfold foregroundColour
  cases Colour.parse settings.foreground <;> simp [Except.mapError]

end Settings

/-- The foreground is a colour just if it is a hash sign and three channels, each of them in two digits or in a plus sign
and one digit; every other text is refused as a setting.  So just the texts of the form `#rrggbb` are colours, but for
those with a plus sign; and a colour that is written reads back. -/
theorem foreground_read_iff (settings : Settings) :
    let s := settings.foreground
    let read := settings.foregroundColour
    (∀ colour, read = .ok colour ↔ Colour.Accepted s colour) ∧
    (read = .error (.settings (.colour .shape s)) ↔ ¬Colour.Shaped s) ∧
    (read = .error (.settings (.colour .digits s)) ↔ Colour.Shaped s ∧ ∀ colour, ¬Colour.Accepted s colour) ∧
    ((∀ colour, read = .ok colour ↔ Colour.Written s colour) ↔
      ¬('+' ∈ s.toList ∧ ∃ colour, Colour.Accepted s colour)) ∧
    ∀ colour, Colour.Written colour.text colour ∧
      ({ settings with foreground := colour.text } : Settings).foregroundColour = .ok colour := by
  intro s read
  have accepts : ∀ colour, read = .ok colour ↔ Colour.Accepted s colour := by
    intro colour
    rw [← Colour.parse_eq_ok_iff]
    exact Settings.foregroundColour_eq_ok_iff
  refine ⟨accepts, ?_, ?_, ?_, ?_⟩
  · rw [← Colour.parse_eq_shape_iff]
    exact Settings.foregroundColour_eq_error_iff
  · rw [← Colour.parse_eq_digits_iff]
    exact Settings.foregroundColour_eq_error_iff
  · constructor
    · rintro exact_form ⟨plus, colour, accepted⟩
      have written := (exact_form colour).mp ((accepts colour).mpr accepted)
      exact written.no_plus plus
    · intro plain colour
      rw [accepts]
      exact ⟨fun accepted => accepted.written fun plus => plain ⟨plus, colour, accepted⟩, Colour.Written.accepted⟩
  · intro colour
    have written := colour.written_text
    exact ⟨written, Settings.foregroundColour_eq_ok_iff.mpr (Colour.parse_eq_ok_iff.mpr written.accepted)⟩

/-- Each channel is a plus sign and one digit, so the text has not the form of a colour. -/
theorem colour_read_from_plus_signs :
    let settings : Settings := { foreground := "#+f+f+f" }
    settings.foregroundColour = .ok ⟨15, 15, 15⟩ ∧ ∀ colour, ¬Colour.Written settings.foreground colour := by
  intro settings
  have parsed : Colour.parse "#+f+f+f" = .ok ⟨15, 15, 15⟩ := rfl
  have plus : '+' ∈ settings.foreground.toList := by decide
  exact ⟨Settings.foregroundColour_eq_ok_iff.mpr parsed, fun colour written => written.no_plus plus⟩

end Chip8Console
