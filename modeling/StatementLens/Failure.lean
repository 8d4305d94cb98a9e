import StatementLens.Event
import StatementLens.Text.Quoted

/-!
# Failures

What can go wrong outside of the texts that are looked at: a file cannot be read, a configuration
does not fit, a service fails. Each failure has a text for users and one for developers, which
also shows how the failure is built.
-/

namespace StatementLens

/-- Why a file system refuses a path. -/
inductive PathFault where
  | notFound
  | notDirectory
  | isDirectory
  | nameTooLong
  | tooManyLinks
  deriving DecidableEq, Repr

namespace PathFault

/-- The number of a fault. -/
def code : PathFault → Nat
  | .notFound => 2
  | .notDirectory => 20
  | .isDirectory => 21
  | .nameTooLong => 36
  | .tooManyLinks => 40

/-- The class of a fault. -/
def kind : PathFault → String
  | .notFound => "NotFound"
  | .notDirectory => "NotADirectory"
  | .isDirectory => "IsADirectory"
  | .nameTooLong => "InvalidFilename"
  | .tooManyLinks => "FilesystemLoop"

/-- What a fault says. -/
def text : PathFault → String
  | .notFound => "No such file or directory"
  | .notDirectory => "Not a directory"
  | .isDirectory => "Is a directory"
  | .nameTooLong => "File name too long"
  | .tooManyLinks => "Too many levels of symbolic links"

end PathFault

/-- Why a file cannot be read. -/
inductive FileFault where
  /-- The file system refuses its path. -/
  | refused (fault : PathFault)
  /-- Its bytes are no text. -/
  | notText
  /-- Its path holds a zero byte. -/
  | zeroByte
  /-- Its path is not absolute. -/
  | notAbsolute (path : String)
  /-- Anything else. -/
  | other (text : String)
  deriving DecidableEq, Repr

namespace FileFault

/-- What is said about a zero byte in a path. -/
def zeroByteText : String := "file name contained an unexpected NUL byte"

/-- The text of a fault. -/
def message : FileFault → String
  | .refused fault => fault.text ++ " (os error " ++ toString fault.code ++ ")"
  | .notText => "stream did not contain valid UTF-8"
  | .zeroByte => zeroByteText
  | .notAbsolute path => "not an absolute path: " ++ path
  | .other text => text

/-- How a fault is built. -/
def describe : FileFault → String
  | .refused fault =>
    "Os \x7b code: " ++ toString fault.code ++ ", kind: " ++ fault.kind ++ ", message: "
      ++ Text.quoted fault.text ++ " \x7d"
  | .notText => "Error \x7b kind: InvalidData, message: "
      ++ Text.quoted "stream did not contain valid UTF-8" ++ " \x7d"
  | .zeroByte => "Error \x7b kind: InvalidInput, message: " ++ Text.quoted zeroByteText ++ " \x7d"
  | .notAbsolute path => "Custom \x7b kind: InvalidInput, error: "
      ++ Text.quoted ("not an absolute path: " ++ path) ++ " \x7d"
  | .other text => "Custom \x7b kind: Other, error: " ++ Text.quoted text ++ " \x7d"

end FileFault

/-- A failure of a service. -/
inductive Failure where
  | file (fault : FileFault)
  | malformed (text : String)
  | invalidArgument (text : String)
  | defect (text : String)
  deriving DecidableEq, Repr

namespace Failure

/-- The text of a failure. -/
def message : Failure → String
  | .file fault => "I/O error: " ++ fault.message
  | .malformed text => "Parse error: " ++ text
  | .invalidArgument text => "Invalid argument: " ++ text
  | .defect text => "Internal error: " ++ text

/-- How a failure is built. -/
def describe : Failure → String
  | .file fault => "Io(" ++ fault.describe ++ ")"
  | .malformed text => "Parse(" ++ Text.quoted text ++ ")"
  | .invalidArgument text => "InvalidArgument(" ++ Text.quoted text ++ ")"
  | .defect text => "Internal(" ++ Text.quoted text ++ ")"

end Failure

/-- A computation that tells of events and may fail. What it has told before it fails is kept. -/
abbrev Attempt := ExceptT Failure Logged

end StatementLens
