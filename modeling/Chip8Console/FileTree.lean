import Chip8Console.Failure

/-!
# A tree of files

The files that the console can read, with paths resolved the way the host system resolves them: part by part,
each of which has to be in a folder, with one dot for the folder itself and two for the one above.

Paths count from the top of the tree.  What lies above the top is not known; nothing can be read there.  The top
has a path of its own on the host system, and this path stands before every other one when lengths are limited.
-/

namespace Chip8Console

/-- Files by their path from the top, and folders that are there even if they hold nothing. -/
structure FileTree where
  /-- The path of the top on the host system. -/
  top : String
  files : List (List String × List UInt8)
  folders : List (List String)

namespace FileTree

inductive Entry where
  | file (bytes : List UInt8)
  | folder

def maxName : Nat := 255

/-- Paths of this many bytes are too long. -/
def maxPath : Nat := 4096

/-- What stands at a path.  Every path above a file or a folder is a folder too. -/
def entry? (t : FileTree) (path : List String) : Option Entry :=
  match t.files.lookup path with
  | some bytes => some (.file bytes)
  | none =>
    if path.isEmpty || t.folders.any (path.isPrefixOf ·) || t.files.any (path.isPrefixOf ·.1) then
      some .folder
    else none

inductive Place where
  | inside (path : List String)
  /-- Above the top of the tree. -/
  | above

/-- One step from a place to the part named `name`. -/
def step (t : FileTree) (place : Place) (name : String) : Except FileFault Place :=
  match place with
  | .above =>
    if name = "." || name = ".." then .ok .above
    else if maxName < name.utf8ByteSize then .error .nameTooLong
    else .error .notFound
  | .inside path =>
    match t.entry? path with
    | none => .error .notFound
    | some (.file _) => .error .notFolder
    | some .folder =>
      if name = "." then .ok (.inside path)
      else if name = ".." then .ok (if path.isEmpty then .above else .inside path.dropLast)
      else if maxName < name.utf8ByteSize then .error .nameTooLong
      else if (t.entry? (path ++ [name])).isNone then .error .notFound
      else .ok (.inside (path ++ [name]))

/-- Cuts a path at its slashes; `part` is what has been read of the first part, backwards. -/
def splitFrom (part : List Char) : List Char → List String
  | [] => [String.ofList part.reverse]
  | c :: rest =>
    if c = '/' then String.ofList part.reverse :: splitFrom [] rest
    else splitFrom (c :: part) rest

/-- The parts of a path.  Several slashes count as one.  A slash at the end asks for a folder, as a dot
after it would. -/
def parts (path : String) : List String :=
  let all := splitFrom [] path.toList
  let named := all.filter (· ≠ "")
  if all.getLast? = some "" then named ++ ["."] else named

/-- The path of `name` in the folder `folder`.  A name that begins with a slash stands for itself. -/
def join (folder name : String) : String :=
  if name.toList.head? = some '/' then name
  else if folder.isEmpty || folder.toList.getLast? = some '/' then folder ++ name
  else folder ++ "/" ++ name

/-- Reads the file at a path.  A path that begins with a slash leads out of the tree. -/
def read (t : FileTree) (path : String) : Except FileFault (List UInt8) := do
  if path.toList.contains '\x00' then throw .zeroByte
  if maxPath ≤ (join t.top path).utf8ByteSize then throw .nameTooLong
  let start := if path.toList.head? = some '/' then Place.above else .inside []
  match ← (parts path).foldlM t.step start with
  | .above => throw .isFolder
  | .inside path =>
    match t.entry? path with
    | some (.file bytes) => return bytes
    | some .folder => throw .isFolder
    | none => throw .notFound

def readText (t : FileTree) (path : String) : Except FileFault String := do
  let bytes ← t.read path
  match String.fromUTF8? ⟨bytes.toArray⟩ with
  | some text => return text
  | none => throw .notText

end FileTree

end Chip8Console
