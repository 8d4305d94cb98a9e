import StatementLens.Mapper.Basic
import StatementLens.Text.Blank
import StatementLens.Text.Lines
import StatementLens.Xml.Element

/-!
# XML mappers

An XML mapper is a document whose root element is a `mapper` with a namespace. The elements directly
in it that declare statements and have an id are its statements. New statements go in front of the
closing tag of the root, or behind the root if it closes itself.

A root element can be closed inside of an entity, which is written further up in the text. Then it
stops in front of its start, there is no text between the two, and reading the mapper fails.
-/

namespace StatementLens

open Text

/-- The name of the root element of XML mappers. -/
def mapperElement : String := "mapper"

/-- Carries `lastClosing`. -/
def lastClosingFrom (offset : Nat) (last : Option Nat) : List Char → Option Nat
  | [] => last
  | c :: rest =>
    let last := if ['<', '/'].isPrefixOf (c :: rest) then some offset else last
    lastClosingFrom (offset + c.utf8Size) last rest

/-- The offset of the last `</` of a text. -/
def lastClosing (text : List Char) : Option Nat := lastClosingFrom 0 none text

/-- Why a text cannot be read as an XML mapper. -/
inductive XmlMapper.Fault where
  /-- It is malformed, as the text says. -/
  | malformed (text : String)
  /-- Its root element stops in front of its start. -/
  | inverted (start stop : Nat)
  deriving DecidableEq, Repr

/-- Where new statements go, given the text of a mapper and the offsets of its root element. -/
def insertOffset (text : List Char) (start stop : Nat) : Except XmlMapper.Fault Nat :=
  if stop < start then .error (.inverted start stop)
  else
    match lastClosing (slice start stop text) with
    | some i => .ok (start + i)
    | none => .ok stop

namespace XmlMapper

/-- The statement that an element declares. -/
def statementOf? (source : IndexedText) (e : Xml.Element) : Option Statement := do
  let kind ← StatementKind.ofElementName? (String.ofList e.qname.name)
  let id ← e.attribute? "id"
  return ⟨String.ofList id, kind, source.positionAt e.start, source.positionAt e.stop⟩

/-- The namespace that a root element declares, if it is that of a mapper. -/
def namespaceOf? (root : Xml.Element) : Option (List Char) :=
  if root.qname.name ≠ mapperElement.toList then none
  else ((root.attribute? "namespace").map trim).filter fun space => !space.isEmpty

/-- The mapper that a root element declares. -/
def ofRoot (uri : String) (source : IndexedText) (root : Xml.Element) :
    Except Fault (Option XmlMapper) :=
  match namespaceOf? root with
  | none => .ok none
  | some space =>
    (insertOffset source.text root.start root.stop).map fun offset => some {
      uri := uri
      namespace_ := String.ofList space
      statements := root.children.filterMap (statementOf? source)
      insertPosition := source.positionAt offset }

/-- Reads an XML mapper. A well-formed document that is no mapper yields none. -/
def parse (uri : String) (text : List Char) : Except Fault (Option XmlMapper) :=
  match Xml.parse text with
  | .error f => .error (.malformed (uri ++ ": " ++ f.message text))
  | .ok root => ofRoot uri (.ofText text) root

end XmlMapper

end StatementLens
