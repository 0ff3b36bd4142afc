import Chip8Console.Text.Conjunct
import Chip8Console.Text.Pictograph
import Chip8Console.Text.Width

/-!
# Widths of clusters

A cluster takes the columns of its characters, with these exceptions: a line end written as two
characters takes no column; a pictograph takes two when it is shown as a picture, by itself or by
a mark, and one when a mark asks for its narrow form; a modifier adds nothing to a pictograph that it
can tone; pictures bound by joiners take two columns together if each of them is fully marked as a
picture; and a Khmer letter below another one takes none.

Whether a character is such an exception depends on what stands after it, so `clusterWidth` reads a
cluster from its end.  `Following` is what a character needs to know of the rest.
-/

namespace Chip8Console.Text

/-- What stands after a character in its cluster, as far as the columns before it depend on it. -/
inductive Following where
  | ordinary
  | lineFeed
  /-- The mark for the narrow form. -/
  | textMark
  /-- The mark for the picture form; `bound` when a joiner binds the marked one to a picture. -/
  | pictureMark (bound : Bool)
  | modifier
  | picture
  /-- A joiner with a picture after it. -/
  | joined
  /-- An enclosing keycap that a joiner binds to a picture. -/
  | joinedKeycap
  /-- A regional letter that a joiner binds to a picture. -/
  | joinedRegional
  /-- The end of a flag spelled in tags, bound to a picture: so many letters after so many digits. -/
  | joinedTags (letters digits : Nat)
  /-- A Khmer letter that a linking mark puts below the letter before it. -/
  | subjoined
deriving DecidableEq

namespace Following

/-- What a character is to the one before it, when nothing after it matters. -/
def ofChar (c : Char) : Following :=
  if c = '\n' then lineFeed
  else if c.toNat < 0xa1 then ordinary
  else if c = '\ufe0e' then textMark
  else if c = '\ufe0f' then pictureMark false
  else if isModifier c then modifier
  else if isIn defaultPictures c then picture
  else if isIn subjoinedLetters c then subjoined
  else ordinary

end Following

/-- Joiners and marks without a shape, which may stand between a Khmer letter and the mark that puts
it below another one. -/
def isTransparent (c : Char) : Bool :=
  isIn [(0x34f, 0x34f), (0x17b4, 0x17b5), (0x180b, 0x180d), (0x180f, 0x180f), (0x200d, 0x200d),
    (0xfe00, 0xfe0f), (0xe0100, 0xe01ef)] c

/-- Whether a flag is spelled out: a region of three digits, or one of letters with its part. -/
def isSpelled (letters digits : Nat) : Bool :=
  digits = 3 || (digits = 0 && 3 ≤ letters)

/-- The columns of the end of a cluster, and what that end is to the character before it. -/
structure Measured where
  columns : Nat
  following : Following

namespace Measured

def empty : Measured := ⟨0, .ordinary⟩

/-- One more character in front, which takes the columns that it takes by itself. -/
def plain (m : Measured) (c : Char) : Measured :=
  ⟨m.columns + width c, .ofChar c⟩

/-- One more character in front, before a joiner and a picture: it takes no column of its own if it
is shown as a picture. -/
def beforeJoined (m : Measured) (c : Char) : Measured :=
  if c = '\ufe0f' then ⟨m.columns, .pictureMark true⟩
  else if c = '\u20e3' then ⟨m.columns, .joinedKeycap⟩
  else if isRegional c then ⟨m.columns + 1, .joinedRegional⟩
  else if isModifier c then ⟨m.columns, .modifier⟩
  else if c.toNat = 0xe007f then ⟨m.columns, .joinedTags 0 0⟩
  else if isIn defaultPictures c then ⟨m.columns, .picture⟩
  else m.plain c

/-- One more character in front of the tags of a flag: another tag, or the flag itself. -/
def beforeTags (m : Measured) (letters digits : Nat) (c : Char) : Measured :=
  let n := c.toNat
  if 0xe0061 ≤ n && n ≤ 0xe007a && digits = 0 && letters < 6 then
    ⟨m.columns, .joinedTags (letters + 1) 0⟩
  else if 0xe0030 ≤ n && n ≤ 0xe0039 && digits < 3 && letters ≤ 4 then
    ⟨m.columns, .joinedTags letters (digits + 1)⟩
  else if n = 0x1f3f4 && isSpelled letters digits then ⟨m.columns, .picture⟩
  else m.plain c

def cons (c : Char) (m : Measured) : Measured :=
  match m.following with
  | .ordinary => m.plain c
  | .lineFeed => if c = '\r' then ⟨m.columns, .ordinary⟩ else m.plain c
  | .textMark => if hasNarrowForm c then ⟨m.columns + 1, .ordinary⟩ else m.plain c
  | .pictureMark bound =>
    if hasPictureForm c then ⟨if bound then m.columns else m.columns + 2, .picture⟩ else m.plain c
  | .modifier =>
    if isIn toned c then ⟨m.columns, .picture⟩
    else if c = '\u200d' then ⟨m.columns, .joined⟩
    else m.plain c
  | .picture => if c = '\u200d' then ⟨m.columns, .joined⟩ else m.plain c
  | .joined => m.beforeJoined c
  | .joinedKeycap => if c = '\ufe0f' then ⟨m.columns, .pictureMark true⟩ else m.plain c
  | .joinedRegional => if isRegional c then ⟨m.columns - 1, .ordinary⟩ else m.plain c
  | .joinedTags letters digits => m.beforeTags letters digits c
  | .subjoined =>
    if isTransparent c then m
    else if c = '\u17d2' then ⟨m.columns - 1, .ordinary⟩
    else m.plain c

end Measured

def clusterWidth (cs : List Char) : Nat :=
  (cs.foldr Measured.cons .empty).columns

@[simp] theorem clusterWidth_nil : clusterWidth [] = 0 := rfl

/-- In a cluster of its own a character takes the columns that it takes by itself. -/
@[simp] theorem clusterWidth_singleton (c : Char) : clusterWidth [c] = width c := by
  simp [clusterWidth, Measured.cons, Measured.empty, Measured.plain]

end Chip8Console.Text
