import Chip8Console.Json.Fault

/-!
# Writing JSON

Values are written without any white space.  In texts the quote, the backslash and the controls are
escaped, with a letter where there is one, and all else stands for itself.
-/

namespace Chip8Console.Json

def writeChar (c : Char) : List Char :=
  if c = '"' then ['\\', '"']
  else if c = '\\' then ['\\', '\\']
  else if c = '\x08' then ['\\', 'b']
  else if c = '\x0c' then ['\\', 'f']
  else if c = '\n' then ['\\', 'n']
  else if c = '\r' then ['\\', 'r']
  else if c = '\t' then ['\\', 't']
  else if c.toNat < 0x20 then
    ['\\', 'u', '0', '0', Text.hexDigit (c.toNat / 16), Text.hexDigit (c.toNat % 16)]
  else [c]

def writeString (s : String) : List Char :=
  '"' :: s.toList.flatMap writeChar ++ ['"']

def writeNat (n : Nat) : List Char :=
  Nat.toDigits 10 n

def writeBool (b : Bool) : List Char :=
  if b then "true".toList else "false".toList

def writeDouble (x : Float) : List Char :=
  (Decimal.text number x).toList

def writeString? : Option String → List Char
  | none => "null".toList
  | some s => writeString s

def separated : List (List Char) → List Char
  | [] => []
  | [value] => value
  | value :: values => value ++ ',' :: separated values

def writeList (values : List (List Char)) : List Char :=
  '[' :: separated values ++ [']']

def writeMember (name : String) (value : List Char) : List Char :=
  writeString name ++ ':' :: value

/-- An object with its members in the given order. -/
def writeObject (members : List (String × List Char)) : List Char :=
  '\x7b' :: separated (members.map fun m => writeMember m.1 m.2) ++ ['\x7d']

end Chip8Console.Json
