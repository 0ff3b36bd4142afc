import Chip8Console.Json.Fault
import Chip8Console.Settings.Fault

/-!
# Failures

Everything that can go wrong, by its cause.  `Failure.message` is the text that the player and the log are
shown.
-/

namespace Chip8Console

inductive FileFault where
  | notFound
  | isFolder
  /-- A part of the path that would have to be a folder is a file. -/
  | notFolder
  | nameTooLong
  /-- The path holds a zero byte. -/
  | zeroByte
  /-- The bytes of the file are no text. -/
  | notText
  | other (text : String)

def FileFault.message : FileFault → String
  | .notFound => "No such file or directory (os error 2)"
  | .isFolder => "Is a directory (os error 21)"
  | .notFolder => "Not a directory (os error 20)"
  | .nameTooLong => "File name too long (os error 36)"
  | .zeroByte => "file name contained an unexpected NUL byte"
  | .notText => "stream did not contain valid UTF-8"
  | .other text => text

inductive FetchFault where
  /-- Nothing is kept under the locator. -/
  | unknownProgram
  | emptyImage
  /-- Whoever was to answer has gone without an answer. -/
  | abandoned
  | file (cause : FileFault)
  | other (text : String)

def FetchFault.message : FetchFault → String
  | .unknownProgram => "no such program"
  | .emptyImage => "empty program image"
  | .abandoned => "fetch abandoned"
  | .file cause => cause.message
  | .other text => text

inductive Failure where
  /-- A program could not be fetched.  The load is given up and not tried again. -/
  | fetch (locator : String) (cause : FetchFault)
  /-- The machine handed over a frame of the wrong size. -/
  | malformedFrame (expected actual : Nat)
  | noSuchProgram (index : Nat)
  /-- The number is not that of a keypad line. -/
  | keyLine (line : UInt8)
  | settings (cause : Settings.Fault)
  /-- The machine stumbled over its program. -/
  | machine (text : String)
  | sound (text : String)
  | file (cause : FileFault)
  | json (cause : Json.Fault)

def Failure.message : Failure → String
  | .fetch locator cause => "could not fetch program \x60" ++ locator ++ "\x60: " ++ cause.message
  | .malformedFrame expected actual =>
    s!"malformed buffer length: expected {expected}, got {actual}"
  | .noSuchProgram index => s!"no program at catalog index {index}"
  | .keyLine line => s!"virtual key line out of range: {line.toNat} (must be 0-15)"
  | .settings cause => "invalid configuration: " ++ cause.message
  | .machine text => "vm fault: " ++ text
  | .sound text => "sound device: " ++ text
  | .file cause => cause.message
  | .json cause => cause.message

end Chip8Console
