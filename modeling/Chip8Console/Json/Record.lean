import Chip8Console.Json.Walk

/-!
# Reading values of a known type

Readers for the types that records are made of, for lists and for records themselves.  A text is read in one
pass, so of several faults the one that comes first in the text is reported.

A record may be written as an object, its members in any order, or as the list of its fields in the
declared order.  Unknown members are passed over; a member that is given twice is refused when its name
is met again, before its value.
-/

namespace Chip8Console.Json

/-! ## Scalars -/

/-- A double; integers are taken as well. -/
def readDouble (cs : List Char) : Except Fault (Float × List Char) := do
  let (head, rest) ← readHead .thorough cs
  match head with
  | .integer value => return (Float.ofInt value, rest)
  | .double value => return (value, rest)
  | found => throw (.wrongType found "f64")

/-- An integer from zero up to, and without, `bound`; `expected` names its type. -/
def readNatBelow (bound : Nat) (expected : String) (cs : List Char) :
    Except Fault (Nat × List Char) := do
  let (head, rest) ← readHead .thorough cs
  match head with
  | .integer value =>
    if 0 ≤ value && value < bound then return (value.toNat, rest)
    else throw (.outOfRange value expected)
  | found => throw (.wrongType found expected)

def readBool (cs : List Char) : Except Fault (Bool × List Char) := do
  let (head, rest) ← readHead .thorough cs
  match head with
  | .boolean value => return (value, rest)
  | found => throw (.wrongType found "a boolean")

def readString (cs : List Char) : Except Fault (String × List Char) := do
  let (head, rest) ← readHead .thorough cs
  match head with
  | .text value => return (value, rest)
  | found => throw (.wrongType found "a string")

/-- A text, or null for none. -/
def readString? (cs : List Char) : Except Fault (Option String × List Char) := do
  let (head, rest) ← readHead .thorough cs
  match head with
  | .null => return (none, rest)
  | .text value => return (some value, rest)
  | found => throw (.wrongType found "a string")

/-! ## Lists -/

/-- Goes to the next element of a list: `some` text at whose front it is due, or `none` before the closing
bracket. -/
def nextElement (first : Bool) (cs : List Char) : Except Fault (Option (List Char)) :=
  match skipBlanks cs with
  | [] => .error .endInList
  | ']' :: _ => .ok none
  | c :: rest =>
    if first then .ok (some (c :: rest))
    else if c = ',' then
      match skipBlanks rest with
      | [] => .error .endInValue
      | ']' :: _ => .error .trailingComma
      | rest => .ok (some rest)
    else .error .expectedListEnd

/-- Ends a list that has had all the elements it may have. -/
def endList (cs : List Char) : Except Fault (List Char) :=
  match skipBlanks cs with
  | [] => .error .endInList
  | ']' :: rest => .ok rest
  | ',' :: rest =>
    match skipBlanks rest with
    | ']' :: _ => .error .trailingComma
    | _ => .error .trailingText
  | _ :: _ => .error .trailingText

/-- Reads the elements of a list after its opening bracket.  Every element takes at least one character, so as
many rounds as there are characters suffice. -/
def readElements {α : Type} (element : Reader α) : Nat → Bool → Reader (List α)
  | 0, _, _ => .error .endInList
  | rounds + 1, first, cs => do
    match ← nextElement first cs with
    | none => return ([], ← endList cs)
    | some cs =>
      let (a, rest) ← element cs
      let (as, rest) ← readElements element rounds false rest
      return (a :: as, rest)

def readList {α : Type} (element : Reader α) (cs : List Char) :
    Except Fault (List α × List Char) := do
  let (head, rest) ← readHead .thorough cs
  match head with
  | .list => readElements element (rest.length + 1) true rest
  | found => throw (.wrongType found "a sequence")

/-! ## Records -/

/-- A field of a record.  While a record is being read, its fields are collected in a draft of type `δ`. -/
structure Field (δ : Type) where
  name : String
  /-- Whether the draft has the field already. -/
  given : δ → Bool
  /-- Reads the value of the field into the draft. -/
  read : δ → Reader δ

/-- A record: its fields in declared order, and how a draft becomes a value. -/
structure Record (δ α : Type) where
  /-- How messages name the record. -/
  title : String
  fields : List (Field δ)
  /-- The draft without any field. -/
  blank : δ
  /-- The value, or the place of the first field that is missing. -/
  build : δ → Except Nat α

namespace Record

variable {δ α : Type}

/-- Goes to the next member of an object: its name and the text after it, or `none` with the text after the
closing bracket. -/
def nextName (first : Bool) (cs : List Char) :
    Except Fault (Option String × List Char) :=
  let name (rest : List Char) : Except Fault (Option String × List Char) := do
    let (text, rest) ← readText .thorough rest
    return (some (String.ofList text), rest)
  match skipBlanks cs with
  | [] => .error .endInObject
  | '\x7d' :: rest => .ok (none, rest)
  | c :: rest =>
    if first then
      if c = '"' then name rest else .error .keyNotText
    else if c = ',' then
      match skipBlanks rest with
      | [] => .error .endInValue
      | '"' :: rest => name rest
      | '\x7d' :: _ => .error .trailingComma
      | _ :: _ => .error .keyNotText
    else .error .expectedObjectEnd

/-- Reads the colon between a name and its value. -/
def colon (cs : List Char) : Except Fault (List Char) :=
  match skipBlanks cs with
  | [] => .error .endInObject
  | ':' :: rest => .ok rest
  | _ :: _ => .error .expectedColon

def readMember (r : Record δ α) (draft : δ) (name : String) (cs : List Char) :
    Except Fault (δ × List Char) := do
  match r.fields.find? (·.name == name) with
  | some field =>
    if field.given draft then throw (.duplicateField field.name)
    else
      let rest ← colon cs
      field.read draft rest
  | none =>
    let rest ← colon cs
    let rest ← skipValue rest
    return (draft, rest)

/-- Reads the members of an object after its opening bracket.  Every member takes at least one character, so as
many rounds as there are characters suffice. -/
def readMembers (r : Record δ α) : Nat → Bool → δ → Reader δ
  | 0, _, _, _ => .error .endInObject
  | rounds + 1, first, draft, cs => do
    let (name, rest) ← nextName first cs
    match name with
    | none => return (draft, rest)
    | some name =>
      let (draft, rest) ← r.readMember draft name rest
      readMembers r rounds false draft rest

/-- Reads the fields of a record that is written as a list, as far as the list goes. -/
def readFields : List (Field δ) → Bool → δ → Reader δ
  | [], _, draft, cs => .ok (draft, cs)
  | field :: fields, first, draft, cs => do
    match ← nextElement first cs with
    | none => return (draft, cs)
    | some cs =>
      let (draft, rest) ← field.read draft cs
      readFields fields false draft rest

def fieldName (r : Record δ α) (place : Nat) : String :=
  (r.fields.map (·.name)).getD place ""

/-- How messages name the length that a list in place of the record must have. -/
def lengthTitle (r : Record δ α) : String :=
  r.title ++ s!" with {r.fields.length} elements"

def read (r : Record δ α) (cs : List Char) : Except Fault (α × List Char) := do
  let (head, rest) ← readHead .thorough cs
  match head with
  | .object =>
    let (draft, rest) ← r.readMembers (rest.length + 1) true r.blank rest
    match r.build draft with
    | .ok a => return (a, rest)
    | .error place => throw (.missingField (r.fieldName place))
  | .list =>
    let (draft, rest) ← readFields r.fields true r.blank rest
    match r.build draft with
    | .ok a => return (a, ← endList rest)
    | .error place => throw (.wrongLength place r.lengthTitle)
  | found => throw (.wrongType found r.title)

end Record

/-- Reads a text that is to hold one value and nothing else. -/
def parse {α : Type} (reader : Reader α) (s : String) : Except Fault α := do
  let (a, rest) ← reader s.toList
  atEnd rest
  return a

end Chip8Console.Json
