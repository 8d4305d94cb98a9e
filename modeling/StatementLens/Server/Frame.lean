import StatementLens.Text.Blank
import StatementLens.Text.Bytes

/-!
# Frames

Messages between an editor and a server follow each other in frames. A frame has a head of lines, of
which one gives the length of the message in bytes, an empty line, and the message.
-/

namespace StatementLens.Server.Frame

/-- The name of the line that gives the length of a message. -/
def lengthName : String := "content-length"

/-- The number that some digits write. -/
def readNumber? (digits : List Char) : Option Nat :=
  if !digits.isEmpty && digits.all Char.isDigit then
    some (digits.foldl (fun n c => 10 * n + (c.toNat - '0'.toNat)) 0)
  else none

/-- The length that a line of a head gives. -/
def lineLength? (line : List Char) : Option Nat :=
  match Text.splitOn (· = ':') line with
  | [name, value] =>
    if String.ofList ((Text.trim name).map Char.toLower) = lengthName then
      readNumber? (Text.trim value)
    else none
  | _ => none

/-- The length of the message that a head announces. -/
def length? (head : List String) : Option Nat := head.findSome? fun line => lineLength? line.toList

/-- Whether a line ends a head. -/
def endsHead (line : String) : Bool := (Text.trim line.toList).isEmpty

/-- A message in its frame. -/
def wrap (message : String) : String :=
  "Content-Length: " ++ toString (Text.byteLength message.toList) ++ "\r\n\r\n" ++ message

end StatementLens.Server.Frame
