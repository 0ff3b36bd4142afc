import Chip8Console.Json.Scan

/-!
# Walking over a whole value

`walk` goes over one value, however deeply nested, and says what follows it.  The brackets that are still open
are kept as a list, innermost first, so that nesting costs no recursion.

* `skipValue` passes over a value that nobody wants.
* `checkText` decides whether a text is one value and nothing else.
-/

namespace Chip8Console.Json

inductive Bracket where
  | list
  | object

/-- Wanted values may have fewer than this many brackets open at a time. -/
def nestingLimit : Nat := 128

/-- Reads a key, after its opening quote, and the colon after it. -/
def walkKey (manner : Manner) (cs : List Char) : Except Fault (List Char) := do
  let (_, rest) ← readText manner cs
  match skipBlanks rest with
  | ':' :: rest => return rest
  | [] => throw .endInObject
  | _ :: _ => throw .expectedColon

/-- What follows a finished value: either `some` text at whose front the next value is due, with the brackets
that are open there, or, when no bracket is open any more, the text after the whole value.  Closing
brackets end further values, so several may be passed at once. -/
def walkOn (manner : Manner) : List Bracket → List Char →
    Except Fault ((List Bracket × List Char) ⊕ List Char)
  | [], cs => .ok (.inr cs)
  | .list :: outer, cs =>
    match skipBlanks cs with
    | [] => .error .endInList
    | ']' :: rest => walkOn manner outer rest
    | ',' :: rest =>
      match skipBlanks rest with
      | ']' :: _ => .error (if manner = .thorough then .trailingComma else .expectedValue)
      | _ => .ok (.inl (.list :: outer, rest))
    | _ :: _ => .error .expectedListEnd
  | .object :: outer, cs =>
    match skipBlanks cs with
    | [] => .error .endInObject
    | '\x7d' :: rest => walkOn manner outer rest
    | ',' :: rest =>
      match skipBlanks rest with
      | '"' :: rest => (walkKey manner rest).map fun rest => .inl (.object :: outer, rest)
      | [] => .error (if manner = .thorough then .endInValue else .endInObject)
      | '\x7d' :: _ => .error (if manner = .thorough then .trailingComma else .keyNotText)
      | _ :: _ => .error .keyNotText
    | _ :: _ => .error .expectedObjectEnd

/-- Goes over one value inside the brackets that are open, and over whatever follows it up to the last of their
closing brackets.  Every round takes at least one character, so as many rounds as there are characters
suffice. -/
def walk (manner : Manner) : Nat → List Bracket → List Char → Except Fault (List Char)
  | 0, _, _ => .error .endInValue
  | rounds + 1, opened, cs => do
    let (head, rest) ← readHead manner cs
    let next ← match head with
      | .list =>
        if manner = .thorough && nestingLimit ≤ opened.length + 1 then throw .nestedTooDeep
        else match skipBlanks rest with
          | [] => throw .endInList
          | ']' :: rest => walkOn manner opened rest
          | _ :: _ => pure (.inl (.list :: opened, rest))
      | .object =>
        if manner = .thorough && nestingLimit ≤ opened.length + 1 then throw .nestedTooDeep
        else match skipBlanks rest with
          | [] => throw .endInObject
          | '\x7d' :: rest => walkOn manner opened rest
          | '"' :: rest => do
            let rest ← walkKey manner rest
            pure (.inl (.object :: opened, rest))
          | _ :: _ => throw .keyNotText
      | _ => walkOn manner opened rest
    match next with
    | .inl (opened, rest) => walk manner rounds opened rest
    | .inr rest => return rest

def skipValue (cs : List Char) : Except Fault (List Char) :=
  walk .cursory (cs.length + 1) [] cs

def atEnd (cs : List Char) : Except Fault Unit :=
  if (skipBlanks cs).isEmpty then .ok () else .error .trailingText

/-- Whether a text is a value with nothing after it. -/
def checkText (s : String) : Except Fault Unit := do
  let cs := s.toList
  let rest ← walk .thorough (cs.length + 1) [] cs
  atEnd rest

end Chip8Console.Json
