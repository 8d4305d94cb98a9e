import StatementLens.Xml.Token

/-!
# References

A reference stands for a character or for the replacement text of an entity. Replacement texts may
hold references themselves. They nest at most ten deep, and a reference outside of all entities may
lead to at most 255 further ones, so that a document cannot blow up.
-/

namespace StatementLens.Xml

open Text

/-- An entity with its replacement text. -/
structure Entity where
  name : List Char
  value : Span
  deriving DecidableEq, Repr

/-- What a reference names. -/
inductive Reference where
  | char (c : Char)
  | entity (name : List Char)
  deriving DecidableEq, Repr

/-- The value of a digit. -/
def digitValue (c : Char) : Nat :=
  if c.isDigit then c.toNat - 48 else c.toLower.toNat - 87

/-- Whether a character is a hexadecimal digit. -/
def isHexDigit (c : Char) : Bool :=
  c.isDigit || ('a' ≤ c ∧ c ≤ 'f') || ('A' ≤ c ∧ c ≤ 'F')

/-- The character with a code; codes that name none stand for the replacement character. -/
def charOfCode (n : Nat) : Char :=
  if n.isValidChar then Char.ofNat n else Char.ofNat 0xFFFD

/-- The character that digits name, if their number has 32 bits and the character is allowed. -/
def charOfDigits (base : Nat) (digits : List Char) : Option Char :=
  let n := digits.foldl (fun n c => base * n + digitValue c) 0
  if digits.isEmpty || Nat.pow 2 32 ≤ n then none
  else
    let c := charOfCode n
    if isXmlChar c then some c else none

/-- The references that need no declaration. -/
def predefined : List (String × Char) :=
  [("quot", '"'), ("amp", '&'), ("apos", '\''), ("lt", '<'), ("gt", '>')]

/-- Takes the name or the number of a reference. -/
def takeReferenceBody (s : Span) : Option (Reference × Span) :=
  match s.chars with
  | '#' :: 'x' :: _ =>
    let (digits, rest) := (s.drop 2).splitWhile isHexDigit
    (charOfDigits 16 digits).map fun c => (.char c, rest)
  | '#' :: _ =>
    let (digits, rest) := s.tail.splitWhile Char.isDigit
    (charOfDigits 10 digits).map fun c => (.char c, rest)
  | _ =>
    match takeName s with
    | .error _ => none
    | .ok (name, rest) =>
      match predefined.lookup (String.ofList name) with
      | some c => some (.char c, rest)
      | none => some (.entity name, rest)

/-- Takes a reference, which begins with an ampersand and ends with a semicolon. -/
def takeReference : Reader Reference := fun s =>
  match takeReferenceBody s.tail with
  | none => fail .malformedReference s
  | some (reference, rest) =>
    if rest.head? = some ';' then .ok (reference, rest.tail) else fail .malformedReference s

/-- The replacement text of the first entity with a name. -/
def replacement (entities : List Entity) (name : List Char) (s : Span) : Except Fault Span :=
  match entities.find? fun e => e.name = name with
  | some e => .ok e.value
  | none => fail (.unknownEntity (String.ofList name)) s

/-- References nest at most this deep. -/
def maxLevels : Nat := 10

/-- A reference outside of all entities leads to at most this many further ones. -/
def maxReferences : Nat := 255

/-- Counts a reference to an entity, with `levels` more levels to go. Those outside of all entities
do not count. -/
def countReference (levels count : Nat) (s : Span) : Except Fault Nat :=
  if levels = maxLevels then .ok count
  else if count = maxReferences then fail .entityLoop s
  else .ok (count + 1)

/-- The count after a reference to an entity has been dealt with. -/
def countAfter (levels count : Nat) : Nat := if levels = maxLevels then 0 else count

/-- A character of an attribute value: all white space is read as blanks. -/
def attributeChar (c : Char) : Char := if c = '\t' || c = '\n' || c = '\r' then ' ' else c

/-- Deals with the replacement text of an entity; the span is what follows the reference. -/
abbrev Expander := Span → Span → Nat → Except Fault (List Char × Nat)

/-- Carries the reading of an attribute value. `done` holds the characters read, the last one first,
and `count` the references counted. -/
def readValueOnto (entities : List Entity) (levels : Nat) (expand : Expander) :
    Nat → List Char → Nat → Span → Except Fault (List Char × Nat)
  | 0, done, count, _ => .ok (done.reverse, count)
  | fuel + 1, done, count, s =>
    match s.chars with
    | [] => .ok (done.reverse, count)
    | '&' :: _ => do
      let (reference, rest) ← takeReference s
      match reference with
      | .char c =>
        if levels = maxLevels then readValueOnto entities levels expand fuel (c :: done) count rest
        else if c = '<' then fail .unescapedAngle s
        else readValueOnto entities levels expand fuel (attributeChar c :: done) count rest
      | .entity name =>
        let value ← replacement entities name s
        let count ← countReference levels count rest
        let (text, count) ← expand value rest count
        readValueOnto entities levels expand fuel (text.reverse ++ done)
          (countAfter levels count) rest
    | '\r' :: '\n' :: _ => readValueOnto entities levels expand fuel done count s.tail
    | c :: _ => readValueOnto entities levels expand fuel (attributeChar c :: done) count s.tail

/-- Reads an attribute value with `levels` more levels of entities to go. -/
def readValue (entities : List Entity) : Nat → Nat → Span → Except Fault (List Char × Nat)
  | 0, count, s =>
    readValueOnto entities 0 (fun _ rest _ => fail .entityLoop rest) (s.chars.length + 1) [] count s
  | levels + 1, count, s =>
    readValueOnto entities (levels + 1) (fun value _ count => readValue entities levels count value)
      (s.chars.length + 1) [] count s

end StatementLens.Xml
