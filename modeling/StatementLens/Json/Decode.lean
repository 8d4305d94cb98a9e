import StatementLens.Json.Value
import StatementLens.Json.Width
import StatementLens.Text.Quoted

/-!
# Reading typed values out of JSON

A reader turns a JSON value into a value of some type, or says why it cannot. Records read from an
object, whose fields are visited in the order in which they stand, or from an array, whose items are
the fields in the order of their declaration.
-/

namespace StatementLens.Json

/-- Why a JSON value cannot be read. -/
inductive DecodeError where
  /-- A value of another kind. -/
  | invalidType (found : Json) (expected : String)
  /-- A value of the right kind that is not allowed. -/
  | invalidValue (found : Json) (expected : String)
  /-- A list with too few or too many items. -/
  | invalidLength (length : Nat) (expected : String)
  /-- A record lacks a field. -/
  | missingField (name : String)
  /-- A record has a field twice. -/
  | duplicateField (name : String)
  /-- A name that is none of the allowed ones. -/
  | unknownVariant (name : String) (allowed : List String)
  /-- A rule of the type read is broken. -/
  | rejected (text : String)
  deriving Repr, Inhabited

/-- A value as error messages name it. -/
def describe : Json → String
  | .null => "null"
  | .bool b => "boolean `" ++ (if b then "true" else "false") ++ "`"
  | .int n => "integer `" ++ toString n ++ "`"
  | .float d => "floating point `" ++ d.render ++ "`"
  | .str s => "string " ++ Text.quoted s
  | .arr _ => "sequence"
  | .obj _ => "map"

/-- Allowed names as error messages list them. -/
def listAllowed : List String → String
  | [] => "there are no variants"
  | [a] => "expected `" ++ a ++ "`"
  | [a, b] => "expected `" ++ a ++ "` or `" ++ b ++ "`"
  | names => "expected one of " ++ ", ".intercalate (names.map fun n => "`" ++ n ++ "`")

/-- The text of an error. -/
def DecodeError.message : DecodeError → String
  | .invalidType found expected => "invalid type: " ++ found.describe ++ ", expected " ++ expected
  | .invalidValue found expected => "invalid value: " ++ found.describe ++ ", expected " ++ expected
  | .invalidLength n expected => "invalid length " ++ toString n ++ ", expected " ++ expected
  | .missingField name => "missing field `" ++ name ++ "`"
  | .duplicateField name => "duplicate field `" ++ name ++ "`"
  | .unknownVariant name allowed => "unknown variant `" ++ name ++ "`, " ++ listAllowed allowed
  | .rejected text => text

/-- Turns a JSON value into a value of type `α`. -/
abbrev Decoder (α : Type) := Json → Except DecodeError α

/-- Reads a natural number below `2 ^ bits`. -/
def decodeUnsigned (bits : Nat) : Decoder Nat
  | .int n =>
    if fitsUnsigned bits n then .ok n.toNat
    else .error (.invalidValue (.int n) ("u" ++ toString bits))
  | j => .error (.invalidType j ("u" ++ toString bits))

/-- Reads an integer of 32 bits. -/
def decodeInt32 : Decoder Int
  | .int n =>
    if fitsSigned 32 n then .ok n else .error (.invalidValue (.int n) "i32")
  | j => .error (.invalidType j "i32")

/-- Reads a boolean. -/
def decodeBool : Decoder Bool
  | .bool b => .ok b
  | j => .error (.invalidType j "a boolean")

/-- Reads a string. -/
def decodeString : Decoder String
  | .str s => .ok s
  | j => .error (.invalidType j "a string")

/-- Reads any value. -/
def decodeAny : Decoder Json := .ok

/-- Reads null as nothing and any other value with `d`. -/
def decodeOption {α : Type} (d : Decoder α) : Decoder (Option α)
  | .null => .ok none
  | j => (d j).map some

/-- Reads a list of values. -/
def decodeList {α : Type} (d : Decoder α) : Decoder (List α)
  | .arr items => items.mapM d
  | j => .error (.invalidType j "a sequence")

/-- Where a value is read from: out of the whole value, or out of a part set aside while the kind of
the whole was looked for. An error about surplus items is worded differently. -/
inductive Origin where
  | direct
  | setAside
  deriving DecidableEq, Repr

/-- The expectation of an error about surplus items, where `count` were to be read. -/
def Origin.surplus : Origin → Nat → String
  | .direct, _ => "fewer elements in array"
  | .setAside, count =>
    toString count ++ (if count = 1 then " element" else " elements") ++ " in sequence"

/-- How to read a record: what each field has to satisfy, and how the record is built from its
fields. -/
structure Record (α : Type) where
  checks : List (String × (Json → Except DecodeError Unit))
  build : (String → Option Json) → Except DecodeError α

namespace Record

/-- A field that has to be there. -/
def required {α : Type} (name : String) (d : Decoder α) : Record α where
  checks := [(name, fun j => (d j).map fun _ => ())]
  build get := match get name with
    | some j => d j
    | none => .error (.missingField name)

/-- A field that may be absent, and then has the value `default`. -/
def withDefault {α : Type} (name : String) (d : Decoder α) (default : α) : Record α where
  checks := [(name, fun j => (d j).map fun _ => ())]
  build get := match get name with
    | some j => d j
    | none => .ok default

/-- A field that may be absent or null. -/
def optional {α : Type} (name : String) (d : Decoder α) : Record (Option α) :=
  withDefault name (decodeOption d) none

/-- A record made from one field. -/
def map {α β : Type} (f : α → β) (r : Record α) : Record β where
  checks := r.checks
  build get := (r.build get).map f

/-- A record with one more group of fields. -/
def andAlso {α β : Type} (r : Record (α → β)) (s : Record α) : Record β where
  checks := r.checks ++ s.checks
  build get := do
    let f ← r.build get
    let a ← s.build get
    return f a

/-- Checks the fields of an object in the order in which they stand. -/
def checkFields {α : Type} (r : Record α) : List (String × Json) → Except DecodeError Unit
  | [] => .ok ()
  | (key, j) :: rest => do
    match r.checks.lookup key with
    | some check => check j
    | none => pure ()
    r.checkFields rest

/-- Pairs the items of an array with the fields in the order of their declaration, checking each. -/
def checkItems {α : Type} (r : Record α) (items : List Json) :
    Except DecodeError (List (String × Json)) :=
  (r.checks.zip items).mapM fun ((name, check), j) => do
    check j
    return (name, j)

/-- The expectation of an error about a record with a wrong number of items. -/
def sized {α : Type} (r : Record α) (title : String) : String :=
  title ++ " with " ++ toString r.checks.length ++ " elements"

/-- Reads a record from an object. -/
def ofFields {α : Type} (r : Record α) (fields : List (String × Json)) : Except DecodeError α := do
  r.checkFields fields
  r.build fun name => fields.lookup name

/-- Reads a record from an array; `short` allows the last fields to be left out. -/
def ofItems {α : Type} (r : Record α) (title : String) (short : Bool) (origin : Origin)
    (items : List Json) : Except DecodeError α := do
  let fields ← r.checkItems items
  if items.length < r.checks.length && !short then
    .error (.invalidLength items.length (r.sized title))
  else
    let a ← r.build fun name => fields.lookup name
    if r.checks.length < items.length then
      .error (.invalidLength items.length (origin.surplus r.checks.length))
    else return a

/-- Reads a record from an object or an array. -/
def decode {α : Type} (title : String) (origin : Origin) (r : Record α) : Decoder α
  | .obj fields => r.ofFields fields
  | .arr items => r.ofItems title false origin items
  | j => .error (.invalidType j title)

end Record

end StatementLens.Json
