import StatementLens.Config.Basic
import StatementLens.Json.Skip

/-!
# Configuration files

A configuration file is read from left to right and each value is checked as it is met, so that the
first error in the file is the one reported, with its place. A field must not be given twice, and
fields of other names are skipped.
-/

namespace StatementLens.Config

open Json (DecodeError Decoder Fault SyntaxError)
open Text (Span)

/-- What is wrong with a configuration file: its syntax or its values. -/
inductive TextError where
  | grammar (error : SyntaxError)
  | value (error : DecodeError)

/-- The text of an error. -/
def TextError.message : TextError → String
  | .grammar error => error.message
  | .value error => error.message

/-- A step of reading a configuration file. -/
abbrev Reading (α : Type) := Except (Fault TextError) α

/-- A step that only looks at syntax. -/
def grammar {α : Type} (step : Except (Fault SyntaxError) α) : Reading α :=
  step.mapError fun f => ⟨.grammar f.cause, f.offset⟩

/-- The result of reading a value that ends at `offset`. -/
def checked {α : Type} (offset : Nat) (result : Except DecodeError α) : Reading α :=
  result.mapError fun e => ⟨.value e, offset⟩

/-- Reads a value with `d`, which takes neither lists nor objects. -/
def readLeaf {α : Type} (d : Decoder α) (s : Span) : Reading (α × Span) := do
  let s := Json.skipSpace s
  match s.head? with
  | none => grammar (Json.faultAhead .endInValue s)
  | some '[' => return (← checked s.offset (d (.arr [])), s)
  | some '{' => return (← checked s.offset (d (.obj [])), s)
  | some c =>
    let (j, rest) ← grammar (Json.readScalar c s)
    return (← checked rest.offset (d j), rest)

/-- Checks the end of a list whose items have been read. -/
def readListEnd (s : Span) : Reading Span :=
  let s := Json.skipSpace s
  match s.head? with
  | some ']' => .ok s.tail
  | some ',' =>
    let rest := Json.skipSpace s.tail
    let cause := if rest.head? = some ']' then .trailingComma else .trailingCharacters
    grammar (Json.faultAhead cause rest)
  | some _ => grammar (Json.faultAhead .trailingCharacters s)
  | none => grammar (Json.faultAhead .endInList s)

/-- Reads the rest of a list of strings, the last one read coming first in `done`. -/
def readStringItems : Nat → List String → Span → Reading (List String × Span)
  | 0, _, s => grammar (Json.fault .endInList s)
  | fuel + 1, done, s => do
    let (more, rest) ← grammar (Json.readListStep done.isEmpty s)
    if more then
      let (item, rest) ← readLeaf Json.decodeString rest
      readStringItems fuel (item :: done) rest
    else return (done.reverse, ← readListEnd rest)

/-- Reads a list of strings. -/
def readStrings (s : Span) : Reading (List String × Span) :=
  let s := Json.skipSpace s
  if s.head? = some '[' then readStringItems (s.chars.length + 1) [] s.tail
  else readLeaf decodeStrings s

/-- The fields of a configuration. -/
inductive Field where
  | sourceRoots
  | baseInterfaces
  | excludeDirs
  | maxXmlFileSize
  deriving DecidableEq, Repr

/-- The name of a field. -/
def Field.name : Field → String
  | .sourceRoots => "sourceRoots"
  | .baseInterfaces => "baseInterfaces"
  | .excludeDirs => "excludeDirs"
  | .maxXmlFileSize => "maxXmlFileSize"

/-- All fields in the order of their declaration. -/
def Field.all : List Field := [.sourceRoots, .baseInterfaces, .excludeDirs, .maxXmlFileSize]

/-- Reads the value of a field into a configuration. -/
def readField (config : Config) (field : Field) (s : Span) : Reading (Config × Span) := do
  match field with
  | .sourceRoots =>
    let (v, rest) ← readStrings s
    return ({ config with sourceRoots := v }, rest)
  | .baseInterfaces =>
    let (v, rest) ← readStrings s
    return ({ config with baseInterfaces := v }, rest)
  | .excludeDirs =>
    let (v, rest) ← readStrings s
    return ({ config with excludeDirs := v }, rest)
  | .maxXmlFileSize =>
    let (v, rest) ← readLeaf (Json.decodeUnsigned 64) s
    return ({ config with maxXmlFileSize := v }, rest)

/-- Where a field given twice is reported: after its second name, the blanks that follow it and the
end of the object, if that comes next. -/
def duplicateOffset (s : Span) : Nat :=
  let s := Json.skipSpace s
  if s.head? = some '}' then s.offset + 1 else s.offset

/-- Reads the rest of an object; `seen` holds the fields met. -/
def readFields : Nat → Config → List Field → Bool → Span → Reading (Config × Span)
  | 0, _, _, _, s => grammar (Json.fault .endInObject s)
  | fuel + 1, config, seen, first, s => do
    match ← grammar (Json.readKey first s) with
    | (none, rest) => return (config, rest.tail)
    | (some key, rest) =>
      match Field.all.find? fun field => field.name = key with
      | none =>
        let rest ← grammar (Json.readColon rest)
        let rest ← grammar (Json.skipValue rest)
        readFields fuel config seen false rest
      | some field =>
        if seen.contains field then
          throw ⟨.value (.duplicateField field.name), duplicateOffset rest⟩
        else
          let rest ← grammar (Json.readColon rest)
          let (config, rest) ← readField config field rest
          readFields fuel config (field :: seen) false rest

/-- Reads fields from the items of an array as far as there are any. -/
def readItems : List Field → Config → Bool → Span → Reading (Config × Span)
  | [], config, _, s => .ok (config, s)
  | field :: fields, config, first, s => do
    let (more, rest) ← grammar (Json.readListStep first s)
    if more then
      let (config, rest) ← readField config field rest
      readItems fields config false rest
    else return (config, rest)

/-- Reads a configuration. -/
def read (s : Span) : Reading (Config × Span) := do
  let s := Json.skipSpace s
  match s.head? with
  | some '[' =>
    let (config, rest) ← readItems Field.all standard true s.tail
    return (config, ← readListEnd rest)
  | some '{' => readFields (s.chars.length + 1) standard [] true s.tail
  | _ => readLeaf decode s

/-- Reads the text of a configuration file. -/
def ofText (text : List Char) : Except String Config :=
  let result := do
    let (config, rest) ← read (Span.ofText text)
    grammar (Json.readEnd rest)
    return config
  result.mapError fun f => f.message TextError.message text

end StatementLens.Config
