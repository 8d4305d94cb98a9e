import StatementLens.Mapper.Codec
import StatementLens.Text.Edit
import StatementLens.Url.Basic

/-!
# What an editor sends

How the values in the messages of an editor are read: URLs, positions and changes of texts.
-/

namespace StatementLens

open Json (Decoder Record)

/-- Reads a URL. -/
def Url.decode : Decoder Url
  | .str s =>
    match Url.parse s with
    | .ok url => .ok url
    | .error e => .error (.rejected (e.message ++ ": " ++ Text.quoted s))
  | j => .error (.invalidType j "a string representing an URL")

namespace Server

/-- Reads a position. -/
def decodePosition : Decoder Position := Position.record.decode "struct Position" .direct

/-- Reads a range. -/
def decodeRange : Decoder Range := (Range.record decodePosition).decode "struct Range" .direct

/-- Reads a change of a text. -/
def decodeChange : Decoder TextChange :=
  ((((Record.optional "range" decodeRange).map fun range (_ : Option Nat) text =>
      TextChange.mk range text).andAlso
    (Record.optional "rangeLength" (Json.decodeUnsigned 32))).andAlso
    ((Record.required "text" Json.decodeString).map String.toList)).decode
    "struct TextDocumentContentChangeEvent" .direct

/-- Reads a list of changes. -/
def decodeChanges : Decoder (List TextChange) := Json.decodeList decodeChange

end Server

end StatementLens
