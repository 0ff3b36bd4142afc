import Chip8Console.Json.Fault

/-!
# Reading single tokens

Readers take the characters that are left of a text and give back what follows the part they have read.

* `skipBlanks` drops white space.
* `readText` reads a text after its opening quote.
* `scanNumber` reads the parts of a number and `Numeral.head` is the number they make.
* `readHead` reads a scalar value, or the opening bracket of a list or an object.
-/

namespace Chip8Console.Json

/-- Reads something at the front of a text and gives back what follows it. -/
abbrev Reader (α : Type) := List Char → Except Fault (α × List Char)

inductive Manner where
  /-- The value is wanted. -/
  | thorough
  /-- The value is passed over: its syntax counts, but not what it stands for. -/
  | cursory
deriving DecidableEq

/-! ## White space -/

/-- The four characters that may stand between tokens. -/
def isBlank (c : Char) : Bool :=
  c = ' ' || c = '\n' || c = '\t' || c = '\r'

def skipBlanks (cs : List Char) : List Char :=
  cs.dropWhile isBlank

/-! ## Texts -/

def shortEscape? (c : Char) : Option Char :=
  match c with
  | '"' => some '"'
  | '\\' => some '\\'
  | '/' => some '/'
  | 'b' => some '\x08'
  | 'f' => some '\x0c'
  | 'n' => some '\n'
  | 'r' => some '\r'
  | 't' => some '\t'
  | _ => none

def isHighSurrogate (n : Nat) : Bool :=
  0xd800 ≤ n && n < 0xdc00

def isLowSurrogate (n : Nat) : Bool :=
  0xdc00 ≤ n && n < 0xe000

def pairedChar (high low : Nat) : Char :=
  Char.ofNat ((high - 0xd800) * 0x400 + (low - 0xdc00) + 0x10000)

/-- The bytes that a text takes when it is stored. -/
def byteCount : List Char → Nat
  | [] => 0
  | c :: cs => c.utf8Size + byteCount cs

inductive TextState where
  | plain
  /-- After a backslash. -/
  | escape
  /-- After some of the four digits of an escape by number, which perhaps follows a high surrogate. -/
  | digits (high : Option Nat) (seen value : Nat)
  /-- After a high surrogate, which has to be followed by another escape by number. -/
  | afterHigh (high : Nat)
  /-- After a high surrogate and a backslash. -/
  | escapeAfterHigh (high : Nat)

/-- Reads the rest of a text.  The characters read so far come backwards.  A wrong digit in an escape by
number counts only if the four places of the escape are there at all. -/
def readTextFrom (manner : Manner) : TextState → List Char → Reader (List Char)
  | _, _, [] => .error .endInText
  | .plain, read, c :: cs =>
    if c = '"' then .ok (read.reverse, cs)
    else if c = '\\' then readTextFrom manner .escape read cs
    else if c.toNat < 0x20 then .error .controlCharacter
    else readTextFrom manner .plain (c :: read) cs
  | .escape, read, c :: cs =>
    if c = 'u' then readTextFrom manner (.digits none 0 0) read cs
    else match shortEscape? c with
      | some d => readTextFrom manner .plain (d :: read) cs
      | none => .error .invalidEscape
  | .digits high seen value, read, c :: cs =>
    match Text.hexValue? c with
    | none => .error (if 4 ≤ seen + byteCount ((c :: cs).take 4) then .invalidEscape else .endInText)
    | some digit =>
      let value := value * 16 + digit
      if seen < 3 then readTextFrom manner (.digits high (seen + 1) value) read cs
      else match high with
        | some high =>
          if isLowSurrogate value then
            readTextFrom manner .plain (pairedChar high value :: read) cs
          else .error .loneSurrogate
        | none =>
          if manner = .thorough && isLowSurrogate value then .error .loneSurrogate
          else if manner = .thorough && isHighSurrogate value then
            readTextFrom manner (.afterHigh value) read cs
          else readTextFrom manner .plain (Char.ofNat value :: read) cs
  | .afterHigh high, read, c :: cs =>
    if c = '\\' then readTextFrom manner (.escapeAfterHigh high) read cs
    else .error .halfSurrogate
  | .escapeAfterHigh high, read, c :: cs =>
    if c = 'u' then readTextFrom manner (.digits (some high) 0 0) read cs
    else .error .halfSurrogate

def readText (manner : Manner) : Reader (List Char) :=
  readTextFrom manner .plain []

/-! ## Numbers -/

/-- The number that a run of digits makes when it is written after the digits of `n`. -/
def appendDigits (n : Nat) (ds : List Char) : Nat :=
  ds.foldl (fun n d => n * 10 + (d.toNat - '0'.toNat)) n

def digitsValue (ds : List Char) : Nat :=
  appendDigits 0 ds

/-- A number as it is written: its digits without the point, and the power of ten to scale them by. -/
structure Numeral where
  negative : Bool
  digits : Nat
  exponent : Int
  /-- Neither a point nor an exponent is written. -/
  whole : Bool

/-- What is wrong where a digit is due and none is there.  When a value is passed over, the end of the text is
not told apart from a wrong character. -/
def noDigit (manner : Manner) (rest : List Char) : Fault :=
  if rest.isEmpty && manner = .thorough then .endInValue else .invalidNumber

/-- Reads an exponent after its letter, and adds it to the one that the fraction has made. -/
def scanExponent (manner : Manner) (numeral : Numeral) (cs : List Char) :
    Except Fault (Numeral × List Char) :=
  let (negative, cs) := match cs with
    | '-' :: rest => (true, rest)
    | '+' :: rest => (false, rest)
    | rest => (false, rest)
  let digits := cs.takeWhile Char.isDigit
  let rest := cs.dropWhile Char.isDigit
  if digits.isEmpty then .error (noDigit manner rest)
  else
    let size : Int := digitsValue digits
    let exponent := numeral.exponent + if negative then -size else size
    .ok ({ numeral with exponent, whole := false }, rest)

/-- Reads the exponent of a number, if there is one. -/
def scanScale (manner : Manner) (numeral : Numeral) : Reader Numeral
  | 'e' :: rest => scanExponent manner numeral rest
  | 'E' :: rest => scanExponent manner numeral rest
  | rest => .ok (numeral, rest)

/-- Reads what follows the digits before the point. -/
def scanFraction (manner : Manner) (numeral : Numeral) : Reader Numeral
  | '.' :: cs =>
    let digits := cs.takeWhile Char.isDigit
    let rest := cs.dropWhile Char.isDigit
    if digits.isEmpty then .error (noDigit manner rest)
    else
      let numeral := { numeral with
        digits := appendDigits numeral.digits digits
        exponent := -digits.length
        whole := false }
      scanScale manner numeral rest
  | rest => scanScale manner numeral rest

/-- Reads a number after its sign.  No digit may follow a zero in front. -/
def scanNumber (manner : Manner) (negative : Bool) : Reader Numeral
  | '0' :: rest =>
    if (rest.takeWhile Char.isDigit).isEmpty then
      scanFraction manner { negative, digits := 0, exponent := 0, whole := true } rest
    else .error .invalidNumber
  | cs =>
    let digits := cs.takeWhile Char.isDigit
    let rest := cs.dropWhile Char.isDigit
    if digits.isEmpty then .error (noDigit manner rest)
    else scanFraction manner
      { negative, digits := digitsValue digits, exponent := 0, whole := true } rest

/-- The double nearest to `digits * 10 ^ exponent`, or `none` if it is beyond all doubles.  Far out powers of
ten are decided by the number of digits alone.

That it is the nearest one is an assumption about how doubles are read.  A reader in a hurry may come out at a
neighbour when there are many digits: it may take `1000.0000000000001` for `1000.0`. -/
def magnitude? (digits : Nat) (exponent : Int) : Option Float :=
  let size := (Nat.toDigits 10 digits).length + exponent
  if digits = 0 || size < -400 then some 0
  else if 400 < size then none
  else
    let value := Float.ofScientific digits (exponent < 0) exponent.natAbs
    if value.isInf then none else some value

/-- The number that a numeral stands for.  Written without point and exponent it is an integer, as long as it
fits into sixty-four bits; negative zero and all else are doubles. -/
def Numeral.head (n : Numeral) : Except Fault Head :=
  if n.whole && !n.negative && n.digits < UInt64.size then .ok (.integer n.digits)
  else if n.whole && n.negative && 0 < n.digits && n.digits ≤ UInt64.size / 2 then
    .ok (.integer (-n.digits))
  else match magnitude? n.digits n.exponent with
    | some value => .ok (.double (if n.negative then -value else value))
    | none => .error .numberTooLarge

/-! ## Heads of values -/

def readWord (head : Head) : List Char → Reader Head
  | [], cs => .ok (head, cs)
  | _ :: _, [] => .error .endInValue
  | w :: word, c :: cs => if c = w then readWord head word cs else .error .expectedWord

/-- Reads a number after its sign.  Passed over, its size does not matter. -/
def readNumber (manner : Manner) (negative : Bool) (cs : List Char) :
    Except Fault (Head × List Char) := do
  let (numeral, rest) ← scanNumber manner negative cs
  match manner with
  | .thorough => return (← numeral.head, rest)
  | .cursory => return (.integer 0, rest)

/-- Reads a value as far as its first token shows it. -/
def readHead (manner : Manner) (cs : List Char) : Except Fault (Head × List Char) :=
  match skipBlanks cs with
  | [] => .error .endInValue
  | 'n' :: rest => readWord .null "ull".toList rest
  | 't' :: rest => readWord (.boolean true) "rue".toList rest
  | 'f' :: rest => readWord (.boolean false) "alse".toList rest
  | '-' :: rest => readNumber manner true rest
  | '"' :: rest => do
    let (text, rest) ← readText manner rest
    return (.text (String.ofList text), rest)
  | '[' :: rest => .ok (.list, rest)
  | '\x7b' :: rest => .ok (.object, rest)
  | c :: rest =>
    if c.isDigit then readNumber manner false (c :: rest) else .error .expectedValue

end Chip8Console.Json
