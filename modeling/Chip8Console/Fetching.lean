import Chip8Console.FileTree
import Chip8Console.Rig

/-!
# Where programs are fetched from

* `Fetcher.memory` serves images that are at hand, and answers at once.
* `Fetcher.folder` reads files, which a worker does in the meantime.
* `Fetcher.promised` leaves the answer to whoever delivers it.
-/

namespace Chip8Console.Fetcher

/-- Serves images that are at hand; of several images under a locator the last one counts. -/
def memory (images : List (String × List UInt8)) : Fetcher where
  atOnce locator := some <|
    match images.reverse.lookup locator with
    | some bytes => .ok bytes
    | none => .error (.fetch locator .unknownProgram)
  later _ := none

/-- The image in the file `locator` of a folder.  An empty file is no image. -/
def readImage (tree : FileTree) (folder locator : String) : Fetched :=
  match tree.read (FileTree.join folder locator) with
  | .ok [] => .error (.fetch locator .emptyImage)
  | .ok bytes => .ok bytes
  | .error fault => .error (.fetch locator (.file fault))

def folder (tree : FileTree) (folder : String) : Fetcher where
  atOnce _ := none
  later locator := some (readImage tree folder locator)

def promised : Fetcher where
  atOnce _ := none
  later _ := none

end Chip8Console.Fetcher
