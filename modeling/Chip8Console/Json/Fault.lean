import Chip8Console.Decimal.Text
import Chip8Console.Text.Quoted

/-!
# What can be wrong with a JSON text

`Fault` lists the causes for which a text is refused: where its syntax breaks off or goes wrong, and how a
well-formed value fails to be the one that is expected there.  `Fault.message` is the wording of each.

`Head` is a value as far as its first token shows it; it is also how messages name the value found.
-/

namespace Chip8Console.Json

/-- A scalar value, or the bracket with which a list or an object begins. -/
inductive Head where
  | null
  | boolean (value : Bool)
  | integer (value : Int)
  | double (value : Float)
  | text (value : String)
  | list
  | object

inductive Fault where
  /-- The text ends where a value is due, or inside one. -/
  | endInValue
  | endInObject
  | endInList
  | endInText
  /-- No value begins with the character found. -/
  | expectedValue
  /-- One of the words for null, true and false begins, and goes on wrongly. -/
  | expectedWord
  | invalidNumber
  /-- The number is larger than every double. -/
  | numberTooLarge
  | expectedColon
  | expectedObjectEnd
  | expectedListEnd
  /-- A comma stands directly before a closing bracket. -/
  | trailingComma
  | keyNotText
  | invalidEscape
  /-- The first half of a surrogate pair is not followed by another escape. -/
  | halfSurrogate
  /-- One half of a surrogate pair stands alone. -/
  | loneSurrogate
  | controlCharacter
  /-- Something follows the value. -/
  | trailingText
  | nestedTooDeep
  | duplicateField (name : String)
  | missingField (name : String)
  /-- A list has too few elements to stand for a record. -/
  | wrongLength (length : Nat) (expected : String)
  | wrongType (found : Head) (expected : String)
  | outOfRange (value : Int) (expected : String)
  /-- The value has the right type and is refused by what it is read for. -/
  | rejected (reason : String)

/-- Doubles are written with their shortest digits, whole ones with a zero after the point, and with an
exponent below `10 ^ -5` and from `10 ^ 16` on. -/
def number : Decimal.Style where
  tie := .even
  positional := fun n => -5 ≤ n && n < 16
  whole := ".0"
  nan := "null"
  infinite := "null"

/-- How messages put what they quote. -/
def ticked (s : String) : String :=
  "\x60" ++ s ++ "\x60"

/-- How messages name the value found. -/
def Head.message : Head → String
  | .null => "null"
  | .boolean value => "boolean " ++ ticked (toString value)
  | .integer value => "integer " ++ ticked (toString value)
  | .double value => "floating point " ++ ticked (Decimal.text number value)
  | .text value => "string " ++ Text.quoted value
  | .list => "sequence"
  | .object => "map"

def Fault.message : Fault → String
  | .endInValue => "EOF while parsing a value"
  | .endInObject => "EOF while parsing an object"
  | .endInList => "EOF while parsing a list"
  | .endInText => "EOF while parsing a string"
  | .expectedValue => "expected value"
  | .expectedWord => "expected ident"
  | .invalidNumber => "invalid number"
  | .numberTooLarge => "number out of range"
  | .expectedColon => "expected " ++ ticked ":"
  | .expectedObjectEnd => "expected " ++ ticked "," ++ " or " ++ ticked "\x7d"
  | .expectedListEnd => "expected " ++ ticked "," ++ " or " ++ ticked "]"
  | .trailingComma => "trailing comma"
  | .keyNotText => "key must be a string"
  | .invalidEscape => "invalid escape"
  | .halfSurrogate => "unexpected end of hex escape"
  | .loneSurrogate => "lone leading surrogate in hex escape"
  | .controlCharacter => "control character (\\u0000-\\u001F) found while parsing a string"
  | .trailingText => "trailing characters"
  | .nestedTooDeep => "recursion limit exceeded"
  | .duplicateField name => "duplicate field " ++ ticked name
  | .missingField name => "missing field " ++ ticked name
  | .wrongLength length expected => s!"invalid length {length}, expected " ++ expected
  | .wrongType found expected => "invalid type: " ++ found.message ++ ", expected " ++ expected
  | .outOfRange value expected =>
    "invalid value: integer " ++ ticked (toString value) ++ ", expected " ++ expected
  | .rejected reason => reason

end Chip8Console.Json
