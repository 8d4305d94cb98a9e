import StatementLens.Json.Value

/-!
# Writing JSON

The text of a JSON value, on one line without blanks, or laid out with two blanks per level.
-/

namespace StatementLens.Json

/-- A hexadecimal digit. -/
def hexDigit (n : Nat) : Char := Nat.digitChar n

/-- A character inside a JSON string. -/
def escapeChar (c : Char) : List Char :=
  if c = '"' then ['\\', '"']
  else if c = '\\' then ['\\', '\\']
  else if c = '\n' then ['\\', 'n']
  else if c = '\r' then ['\\', 'r']
  else if c = '\t' then ['\\', 't']
  else if c.toNat = 8 then ['\\', 'b']
  else if c.toNat = 12 then ['\\', 'f']
  else if c.toNat < 0x20 then
    ['\\', 'u', '0', '0', hexDigit (c.toNat / 16), hexDigit (c.toNat % 16)]
  else [c]

/-- A text as a JSON string. -/
def writeString (s : String) : String :=
  String.ofList ('"' :: s.toList.flatMap escapeChar ++ ['"'])

mutual
/-- The text of a value on one line, without blanks. -/
def write : Json → String
  | .null => "null"
  | .bool b => if b then "true" else "false"
  | .int n => toString n
  | .float d => d.render
  | .str s => writeString s
  | .arr items => "[" ++ ",".intercalate (writeItems items) ++ "]"
  | .obj fields => "\x7b" ++ ",".intercalate (writeFields fields) ++ "\x7d"

/-- The texts of the items of a list. -/
def writeItems : List Json → List String
  | [] => []
  | j :: rest => write j :: writeItems rest

/-- The texts of the fields of an object. -/
def writeFields : List (String × Json) → List String
  | [] => []
  | (k, j) :: rest => (writeString k ++ ":" ++ write j) :: writeFields rest
end

/-- Lays items out one to a line between brackets, the closing one at the level `indent`. -/
def layOutItems (opening closing indent : String) (items : List String) : String :=
  if items.isEmpty then opening ++ closing
  else
    let inner := "\n" ++ indent ++ "  "
    opening ++ inner ++ ("," ++ inner).intercalate items ++ "\n" ++ indent ++ closing

mutual
/-- The text of a value over several lines, starting at the level `indent`. -/
def writePretty (indent : String) : Json → String
  | .arr items => layOutItems "[" "]" indent (writePrettyItems (indent ++ "  ") items)
  | .obj fields => layOutItems "\x7b" "\x7d" indent (writePrettyFields (indent ++ "  ") fields)
  | .null => "null"
  | .bool b => if b then "true" else "false"
  | .int n => toString n
  | .float d => d.render
  | .str s => writeString s

/-- The texts of the items of a list, each starting at the level `indent`. -/
def writePrettyItems (indent : String) : List Json → List String
  | [] => []
  | j :: rest => writePretty indent j :: writePrettyItems indent rest

/-- The texts of the fields of an object, each starting at the level `indent`. -/
def writePrettyFields (indent : String) : List (String × Json) → List String
  | [] => []
  | (k, j) :: rest =>
    (writeString k ++ ": " ++ writePretty indent j) :: writePrettyFields indent rest
end

end StatementLens.Json
