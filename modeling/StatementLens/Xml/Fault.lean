import StatementLens.Text.Bytes
import StatementLens.Text.Quoted

/-!
# Faults of XML documents

What can be wrong with a document, and where. A place is told as a row and a column, both counted
from one, and a column counts characters.
-/

namespace StatementLens.Xml

/-- What is wrong with a document. -/
inductive Cause where
  | endOfStream
  | noRoot
  | unclosedRoot
  /-- One character is expected and another one is there. -/
  | wrongChar (expected found : Char)
  /-- Something is expected and another character is there. -/
  | wrongThing (expected : String) (found : Char)
  /-- A fixed text is expected. -/
  | wrongText (expected : String)
  | invalidName
  | nonXmlChar (c : Char)
  | unescapedAngle
  | invalidComment
  | invalidText
  | unknownToken
  | invalidExternalId
  | unexpectedDeclaration
  | wrongCloseTag (expected found : String)
  | unexpectedCloseTag
  | unknownEntity (name : String)
  | malformedReference
  | entityLoop
  | duplicateAttribute (name : String)
  | duplicateNamespace (name : String)
  | unknownPrefix (name : String)
  | wrongXmlUri
  | xmlUriForOtherPrefix
  | xmlnsUriDeclared
  | xmlnsPrefixUsed
  deriving DecidableEq, Repr

/-- The text of a cause, given its place. -/
def Cause.message (place : String) : Cause → String
  | .endOfStream => "unexpected end of stream"
  | .noRoot => "the document does not have a root node"
  | .unclosedRoot => "the root node was opened but never closed"
  | .wrongChar expected found =>
    "expected '" ++ expected.toString ++ "' not '" ++ found.toString ++ "' at " ++ place
  | .wrongThing expected found =>
    "expected " ++ expected ++ " not '" ++ found.toString ++ "' at " ++ place
  | .wrongText expected => "expected '" ++ expected ++ "' at " ++ place
  | .invalidName => "invalid name token at " ++ place
  | .nonXmlChar c => "a non-XML character " ++ Text.quotedChar c ++ " found at " ++ place
  | .unescapedAngle => "unescaped '<' found at " ++ place
  | .invalidComment => "comment at " ++ place ++ " contains '--'"
  | .invalidText => "']]>' at " ++ place ++ " is not allowed inside a character data"
  | .unknownToken => "unknown token at " ++ place
  | .invalidExternalId => "invalid ExternalID at " ++ place
  | .unexpectedDeclaration => "unexpected XML declaration at " ++ place
  | .wrongCloseTag expected found =>
    "expected '" ++ expected ++ "' tag, not '" ++ found ++ "' at " ++ place
  | .unexpectedCloseTag => "unexpected close tag at " ++ place
  | .unknownEntity name => "unknown entity reference '" ++ name ++ "' at " ++ place
  | .malformedReference => "malformed entity reference at " ++ place
  | .entityLoop => "a possible entity reference loop is detected at " ++ place
  | .duplicateAttribute name => "attribute '" ++ name ++ "' at " ++ place ++ " is already defined"
  | .duplicateNamespace name => "namespace '" ++ name ++ "' at " ++ place ++ " is already defined"
  | .unknownPrefix name => "an unknown namespace prefix '" ++ name ++ "' at " ++ place
  | .wrongXmlUri => "'xml' namespace prefix mapped to wrong URI at " ++ place
  | .xmlUriForOtherPrefix => "the 'xml' namespace URI is used for not 'xml' prefix at " ++ place
  | .xmlnsUriDeclared => "the 'xmlns' URI is used at " ++ place ++ ", but it must not be declared"
  | .xmlnsPrefixUsed => "the 'xmlns' prefix is used at " ++ place ++ ", but it must not be"

/-- A cause and the offset of its place. -/
structure Fault where
  cause : Cause
  offset : Nat
  deriving DecidableEq, Repr

/-- The row and the column of an offset. -/
def rowAndColumn (text : List Char) (offset : Nat) : Nat × Nat :=
  (Text.takeBytes offset text).foldl
    (fun (row, column) c => if c = '\n' then (row + 1, 1) else (row, column + 1)) (1, 1)

/-- The text of a fault of a document. -/
def Fault.message (text : List Char) (f : Fault) : String :=
  let (row, column) := rowAndColumn text f.offset
  f.cause.message (toString row ++ ":" ++ toString column)

end StatementLens.Xml
