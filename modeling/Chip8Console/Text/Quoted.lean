import Chip8Console.Text.Extending
import Chip8Console.Text.Hex
import Chip8Console.Text.Printable

/-!
# Quoted text

Messages that repeat a text put it in quotes, with escapes for whatever would not show: `quoted` does
so for a text, in double quotes, and `quotedChar` for a single character, in single quotes.  Each
escapes its own quotation mark and leaves the other one alone.
-/

namespace Chip8Console.Text

/-- A character as it stands between the quotation marks `mark`. -/
def escaped (mark c : Char) : String :=
  if c = '\x00' then "\\0"
  else if c = '\t' then "\\t"
  else if c = '\r' then "\\r"
  else if c = '\n' then "\\n"
  else if c = '\\' || c = mark then "\\" ++ c.toString
  else if isExtending c || !isPrintable c then "\\u\x7b" ++ hexText c.toNat ++ "\x7d"
  else c.toString

def quoted (s : String) : String :=
  "\"" ++ String.join (s.toList.map (escaped '"')) ++ "\""

def quotedChar (c : Char) : String :=
  "'" ++ escaped '\'' c ++ "'"

end Chip8Console.Text
