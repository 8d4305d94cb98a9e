import StatementLens.Xml.Reference

/-!
# Elements

The tokens of a document are put together into elements. On the way, prefixes of names are resolved
to namespaces, and entities are replaced by the elements that their texts hold; such an element
stands where the entity is declared.
-/

namespace StatementLens.Xml

open Text

/-- An attribute with its namespace, if it has one. -/
structure Attribute where
  space : Option (List Char)
  name : List Char
  value : List Char
  deriving DecidableEq, Repr

/-- An element: its name, its attributes, the offsets between which it stands, and the elements in
it. -/
inductive Element where
  | mk (name : QName) (attributes : List Attribute) (start stop : Nat) (children : List Element)
  deriving Repr

namespace Element

/-- The name of an element. -/
def qname : Element → QName
  | .mk name _ _ _ _ => name

/-- The attributes of an element. -/
def attributes : Element → List Attribute
  | .mk _ attributes _ _ _ => attributes

/-- The offset at which an element starts. -/
def start : Element → Nat
  | .mk _ _ start _ _ => start

/-- The offset just past an element. -/
def stop : Element → Nat
  | .mk _ _ _ stop _ => stop

/-- The elements in an element. -/
def children : Element → List Element
  | .mk _ _ _ _ children => children

/-- The value of an attribute without a namespace. -/
def attribute? (e : Element) (name : String) : Option (List Char) :=
  (e.attributes.find? fun a => a.space = none && a.name = name.toList).map Attribute.value

end Element

/-- A name bound to a namespace; the default namespace has no name. -/
structure Binding where
  space : List Char
  uri : List Char
  deriving DecidableEq, Repr

/-- An element whose closing tag has not been met. The last element in it comes first. -/
structure OpenElement where
  name : QName
  attributes : List Attribute
  bindings : List Binding
  start : Nat
  children : List Element

/-- An attribute whose prefix has not been resolved. -/
structure PendingAttribute where
  name : QName
  value : List Char
  start : Nat

/-- A document under construction. -/
structure Builder where
  entities : List Entity := []
  /-- The last tag that started, and where. -/
  tag : Option (QName × Nat) := none
  /-- Its attributes, the last one first. -/
  pending : List PendingAttribute := []
  /-- The namespaces it declares, the last one first. -/
  declared : List Binding := []
  /-- The open elements, the innermost first. -/
  opened : List OpenElement := []
  /-- The finished elements outside of all others, the last one first. -/
  finished : List Element := []
  /-- References counted below an outer reference. -/
  references : Nat := 0

/-- The namespace of the prefix `xml`. -/
def xmlUri : List Char := "http://www.w3.org/XML/1998/namespace".toList

/-- The namespace of the prefix `xmlns`. -/
def xmlnsUri : List Char := "http://www.w3.org/2000/xmlns/".toList

namespace Builder

/-- Declares a namespace with a prefix. -/
def declarePrefixed (b : Builder) (space uri : List Char) (start : Nat) : Except Fault Builder :=
  if uri = xmlnsUri then .error ⟨.xmlnsUriDeclared, start⟩
  else if space = "xml".toList && uri ≠ xmlUri then .error ⟨.wrongXmlUri, start⟩
  else if space ≠ "xml".toList && uri = xmlUri then .error ⟨.xmlUriForOtherPrefix, start⟩
  else if b.declared.any fun d => d.space = space then
    .error ⟨.duplicateNamespace (String.ofList space), start⟩
  else if uri = xmlUri then .ok b
  else .ok { b with declared := ⟨space, uri⟩ :: b.declared }

/-- Declares the default namespace. -/
def declareDefault (b : Builder) (uri : List Char) (start : Nat) : Except Fault Builder :=
  if uri = xmlUri then .error ⟨.xmlUriForOtherPrefix, start⟩
  else if uri = xmlnsUri then .error ⟨.xmlnsUriDeclared, start⟩
  else .ok { b with declared := ⟨[], uri⟩ :: b.declared }

/-- Adds an attribute, or the namespace that it declares. -/
def addAttribute (b : Builder) (levels : Nat) (raw : RawAttribute) : Except Fault Builder := do
  let (value, references) ← readValue b.entities levels b.references raw.value
  let b := { b with references := references }
  if raw.name.space = "xmlns".toList then b.declarePrefixed raw.name.name value raw.start
  else if raw.name.name = "xmlns".toList then b.declareDefault value raw.start
  else return { b with pending := ⟨raw.name, value, raw.start⟩ :: b.pending }

/-- The namespaces in scope in the last tag: those it declares, and those around it that it does not
declare anew. -/
def inScope (b : Builder) : List Binding :=
  let declared := b.declared.reverse
  match b.opened with
  | [] => declared
  | parent :: _ =>
    declared ++ parent.bindings.filter fun d => !declared.any fun e => e.space = d.space

/-- The namespace of a prefix, which is met at `offset`. -/
def lookupPrefix (bindings : List Binding) (space : List Char) (offset : Nat) :
    Except Fault (Option (List Char)) :=
  match bindings.find? fun d => d.space = space with
  | some d => .ok (some d.uri)
  | none =>
    if space.isEmpty then .ok none else .error ⟨.unknownPrefix (String.ofList space), offset⟩

/-- Resolves the prefix of an attribute. -/
def resolveAttribute (bindings : List Binding) (p : PendingAttribute) : Except Fault Attribute := do
  let space ←
    if p.name.space = "xml".toList then pure (some xmlUri)
    else if p.name.space.isEmpty then pure none
    else lookupPrefix bindings p.name.space p.start
  return ⟨space, p.name.name, p.value⟩

/-- Resolves the attributes of a tag, no two of which may have the same name in one namespace. -/
def resolveAttributes (bindings : List Binding) :
    List Attribute → List PendingAttribute → Except Fault (List Attribute)
  | done, [] => .ok done
  | done, p :: rest => do
    let a ← resolveAttribute bindings p
    if done.any fun d => d.space = a.space && d.name = a.name then
      .error ⟨.duplicateAttribute (String.ofList a.name), p.start⟩
    else resolveAttributes bindings (done ++ [a]) rest

/-- Adds a finished element to the innermost open one, or to the document. -/
def addElement (b : Builder) (e : Element) : Builder :=
  match b.opened with
  | [] => { b with finished := e :: b.finished }
  | parent :: rest => { b with opened := { parent with children := e :: parent.children } :: rest }

/-- Ends the last tag. -/
def endTag (b : Builder) (selfClosing : Bool) (stop : Nat) : Except Fault Builder := do
  match b.tag with
  | none => .error ⟨.unexpectedCloseTag, stop⟩
  | some (name, start) =>
    let bindings := b.inScope
    let attributes ← resolveAttributes bindings [] b.pending.reverse
    let _ ← lookupPrefix bindings name.space (start + 1)
    let b := { b with pending := [], declared := [] }
    if selfClosing then return b.addElement (.mk name attributes start stop [])
    else return { b with opened := ⟨name, attributes, bindings, start, []⟩ :: b.opened }

/-- Closes the innermost open element. A replacement text must not begin with a closing tag. -/
def closeElement (b : Builder) (name : QName) (start stop : Nat) : Except Fault Builder := do
  if b.tag.isNone then .error ⟨.unexpectedCloseTag, start⟩
  else
    let _ ← resolveAttributes b.inScope [] b.pending.reverse
    match b.opened with
    | [] => .error ⟨.unexpectedCloseTag, start⟩
    | e :: rest =>
      if e.name ≠ name then .error ⟨.wrongCloseTag e.name.toString name.toString, start⟩
      else
        let b := { b with opened := rest, pending := [], declared := [] }
        return b.addElement (.mk e.name e.attributes e.start stop e.children.reverse)

/-- Deals with the replacement text of an entity in content; the first span is the text and the
second what follows the reference. -/
abbrev ContentExpander := Span → Span → Builder → Except Fault Builder

/-- Replaces the entities in a text. -/
def addText (levels : Nat) (expand : ContentExpander) : Nat → Builder → Span → Except Fault Builder
  | 0, b, _ => .ok b
  | fuel + 1, b, s => do
    let s := s.dropWhile (· ≠ '&')
    if s.atEnd then return b
    else
      let (reference, rest) ← takeReference s
      match reference with
      | .char _ => addText levels expand fuel b rest
      | .entity name =>
        let value ← replacement b.entities name s
        let count ← countReference levels b.references rest
        let b ← expand value rest { b with references := count }
        addText levels expand fuel { b with references := countAfter levels b.references } rest

/-- Takes a token into account, with `levels` more levels of entities to go. -/
def addToken (levels : Nat) (expand : ContentExpander) (b : Builder) : Token → Except Fault Builder
  | .entity name value => .ok { b with entities := b.entities ++ [⟨name, value⟩] }
  | .tagStart name start =>
    if name.space = "xmlns".toList then .error ⟨.xmlnsPrefixUsed, start + 1⟩
    else .ok { b with tag := some (name, start) }
  | .attr raw => b.addAttribute levels raw
  | .tagEnd selfClosing stop => b.endTag selfClosing stop
  | .closeTag name start stop => b.closeElement name start stop
  | .text content => addText levels expand (content.chars.length + 1) b content

/-- Takes tokens into account one after the other, and then what ends them. -/
def addScan {α : Type} (levels : Nat) (expand : ContentExpander) (b : Builder) (tokens : List Token)
    (result : Except Fault α) : Except Fault Builder := do
  let b ← tokens.foldlM (addToken levels expand) b
  let _ ← result
  return b

/-- Replaces an entity in content, with `levels` levels to go. -/
def expandContent : Nat → ContentExpander
  | 0, _, rest, _ => fail .entityLoop rest
  | levels + 1, value, _, b => do
    let (done, result) := scanFragment value
    let inner ← { b with tag := none }.addScan levels (expandContent levels) done.reverse result
    return { inner with tag := b.tag }

end Builder

/-- The elements of a document outside of all others. There is at least one, and all are closed. -/
def parseElements (text : List Char) : Except Fault (List Element) := do
  let (tokens, result) := scanDocument text
  let b ← Builder.addScan maxLevels (Builder.expandContent maxLevels) {} tokens result
  if b.finished.isEmpty && b.opened.isEmpty then .error ⟨.noRoot, 0⟩
  else if !b.opened.isEmpty then .error ⟨.unclosedRoot, 0⟩
  else return b.finished.reverse

/-- Reads a document: its root element. -/
def parse (text : List Char) : Except Fault Element := do
  match ← parseElements text with
  | [] => .error ⟨.noRoot, 0⟩
  | root :: _ => return root

end StatementLens.Xml
