import StatementLens.Xml.Name

/-!
# Tokens of XML documents

A document is cut into tokens: declarations of entities, starts and ends of tags, attributes and
texts. Comments, processing instructions and sections of raw text are checked and dropped. The
cutting goes on until the end of the document or the first fault, so that the tokens in front of a
fault can be looked at before the fault itself.
-/

namespace StatementLens.Xml

open Text

/-- A token of a document. -/
inductive Token where
  /-- An entity with its replacement text. -/
  | entity (name : List Char) (value : Span)
  /-- The start of a tag, up to its name. -/
  | tagStart (name : QName) (start : Nat)
  /-- An attribute of the tag started last. -/
  | attr (raw : RawAttribute)
  /-- The end of the tag started last. -/
  | tagEnd (selfClosing : Bool) (stop : Nat)
  /-- A closing tag. -/
  | closeTag (name : QName) (start stop : Nat)
  /-- A stretch of text. -/
  | text (content : Span)
  deriving DecidableEq, Repr

/-- Tokens, the last one first, and what follows them or what is wrong there. -/
abbrev Scan (α : Type) := List Token × Except Fault α

/-- Goes on after a step that yields no token. -/
def Scan.after {α β : Type} (done : List Token) (step : Except Fault α) (next : α → Scan β) :
    Scan β :=
  match step with
  | .ok a => next a
  | .error f => (done, .error f)

/-! ## Comments and instructions -/

/-- Takes a comment. It must not hold two hyphens nor end in one. -/
def takeComment (s : Span) : Except Fault Span := do
  let (content, rest) ← takeThrough "-->" (s.drop 4)
  if Text.contains ['-', '-'] content || content.getLast? = some '-' then fail .invalidComment s
  else return rest

/-- Takes a processing instruction. It must not look like the declaration of a document. -/
def takeInstruction (s : Span) : Except Fault Span := do
  if s.startsWith "<?xml ".toList then fail .unexpectedDeclaration s
  else
    let (_, rest) ← takeName (s.drop 2)
    let (_, rest) ← takeThrough "?>" (skipSpace rest)
    return rest

/-- Takes a section of raw text. -/
def takeCData (s : Span) : Except Fault Span := do
  let (_, rest) ← takeThrough "]]>" (s.drop 9)
  return rest

/-- Takes white space, comments and instructions. -/
def takeMisc : Nat → Span → Except Fault Span
  | 0, s => .ok s
  | fuel + 1, s => do
    let rest := skipSpace s
    if rest.startsWith "<!--".toList then takeMisc fuel (← takeComment rest)
    else if rest.startsWith "<?".toList then takeMisc fuel (← takeInstruction rest)
    else return rest

/-! ## The prolog -/

/-- Takes white space in the declaration of a document, which may be missing at its end. -/
def takeDeclarationSpace (s : Span) : Except Fault Span :=
  if startsWithSpace s || s.startsWith "?>".toList || s.atEnd then .ok (skipSpace s)
  else takeSpace s

/-- Takes an attribute of the declaration of a document. -/
def takeDeclarationAttribute (s : Span) : Except Fault Span := do
  let (_, rest) ← takeAttribute s
  return rest

/-- Takes the declaration of a document. -/
def takeDeclaration (s : Span) : Except Fault Span := do
  let s ← takeDeclarationSpace (s.drop 5)
  if !s.startsWith "version".toList then fail (.wrongText "version") s
  else
    let s ← takeDeclarationSpace (← takeDeclarationAttribute s)
    let s ← if s.startsWith "encoding".toList then
        takeDeclarationSpace (← takeDeclarationAttribute s)
      else pure s
    let s ← if s.startsWith "standalone".toList then takeDeclarationAttribute s else pure s
    takeText "?>" (skipSpace s)

/-- Takes a quoted text after white space. -/
def takeQuoted (s : Span) : Except Fault Span := do
  let (quote, rest) ← takeQuote (← takeSpace s)
  let (_, rest) ← takeLiteral quote rest
  return rest

/-- Takes the name of an external resource, if there is one. -/
def takeExternalId : Reader Bool := fun s => do
  if s.startsWith "SYSTEM".toList then return (true, ← takeQuoted (s.drop 6))
  else if s.startsWith "PUBLIC".toList then return (true, ← takeQuoted (← takeQuoted (s.drop 6)))
  else return (false, s)

/-- Takes the kind of data of an external entity, if it is given. -/
def takeDataKind (s : Span) : Except Fault Span := do
  let s := skipSpace s
  if s.startsWith "NDATA".toList then
    let (_, rest) ← takeNameOrEnd (← takeSpace (s.drop 5))
    return rest
  else return s

/-- Takes the definition of an entity: its replacement text, or none if it is external. -/
def takeEntityDefinition (general : Bool) : Reader (Option Span) := fun s => do
  match s.head? with
  | none => fail .endOfStream s
  | some c =>
    if c = '"' || c = '\'' then
      let (value, rest) ← takeLiteral c s.tail
      return (some value, rest)
    else if c = 'S' || c = 'P' then
      let (found, rest) ← takeExternalId s
      if !found then fail .invalidExternalId s
      else if general then return (none, ← takeDataKind rest)
      else return (none, rest)
    else fail (.wrongThing "a quote, SYSTEM or PUBLIC" (leadingByte c)) s

/-- Takes the declaration of an entity; a token stands for an entity with a replacement text. -/
def scanEntity (done : List Token) (s : Span) : Scan Span :=
  let header := do
    let s ← takeSpace (s.drop 8)
    let (general, s) ← if s.head? = some '%' then
        do pure (false, ← takeSpace s.tail)
      else pure (true, s)
    let (name, s) ← takeName s
    let (value, s) ← takeEntityDefinition general (← takeSpace s)
    return (name, value, s)
  Scan.after done header fun (name, value, s) =>
    let done := match value with
      | some value => .entity name value :: done
      | none => done
    (done, takeChar '>' (skipSpace s))

/-- Takes the end of the document type, its last bracket being read already. -/
def takeDoctypeEnd (s : Span) : Except Fault Span :=
  let s := skipSpace s
  match s.head? with
  | none => fail .endOfStream s
  | some '>' => .ok s.tail
  | some c => fail (.wrongThing "'>'" (leadingByte c)) s

/-- Takes a declaration that is not looked at. -/
def skipDeclaration (doctype : Nat) (s : Span) : Except Fault Span :=
  let rest := s.dropWhile (· ≠ '>')
  if rest.atEnd then .error ⟨.unknownToken, doctype⟩ else .ok rest.tail

/-- Cuts the declarations inside a document type that starts at `doctype`. -/
def scanSubset (doctype : Nat) : Nat → List Token → Span → Scan Span
  | 0, done, s => (done, .ok s)
  | fuel + 1, done, s =>
    if s.atEnd then (done, .ok s)
    else
      let s := skipSpace s
      if s.startsWith "<!ENTITY".toList then
        let (done, result) := scanEntity done s
        Scan.after done result (scanSubset doctype fuel done)
      else if s.startsWith "<!--".toList then
        Scan.after done (takeComment s) (scanSubset doctype fuel done)
      else if s.startsWith "<?".toList then
        Scan.after done (takeInstruction s) (scanSubset doctype fuel done)
      else if s.startsWith "]".toList then (done, takeDoctypeEnd s.tail)
      else if ["<!ELEMENT", "<!ATTLIST", "<!NOTATION"].any fun word => s.startsWith word.toList then
        Scan.after done (skipDeclaration doctype s) (scanSubset doctype fuel done)
      else (done, fail .unknownToken s)

/-- Takes the beginning of a document type: whether declarations follow. -/
def takeDoctypeHead : Reader Bool := fun s => do
  let s ← takeSpace (s.drop 9)
  let (_, s) ← takeNameOrEnd s
  let (_, s) ← takeExternalId (skipSpace s)
  let s := skipSpace s
  match s.head? with
  | none => fail .endOfStream s
  | some '[' => return (true, s.tail)
  | some '>' => return (false, s.tail)
  | some c => fail (.wrongThing "'[' or '>'" (leadingByte c)) s

/-- Cuts a document type. -/
def scanDoctype (s : Span) : Scan Span :=
  Scan.after [] (takeDoctypeHead s) fun (more, rest) =>
    if more then scanSubset s.offset (rest.chars.length + 1) [] rest else ([], .ok rest)

/-! ## Elements -/

/-- How a tag ends. -/
inductive TagEnd where
  /-- Content follows. -/
  | opened
  /-- The element has no content. -/
  | selfClosed
  /-- The document ends inside the tag. -/
  | cutOff
  deriving DecidableEq, Repr

/-- Cuts the attributes of a tag and its end. -/
def scanAttributes : Nat → List Token → Span → Scan (TagEnd × Span)
  | 0, done, s => (done, .ok (.cutOff, s))
  | fuel + 1, done, s =>
    if s.atEnd then (done, .ok (.cutOff, s))
    else
      let rest := skipSpace s
      match rest.head? with
      | none => (done, fail .endOfStream rest)
      | some '/' =>
        Scan.after done (takeChar '>' rest.tail) fun rest =>
          (.tagEnd true rest.offset :: done, .ok (.selfClosed, rest))
      | some '>' => (.tagEnd false rest.tail.offset :: done, .ok (.opened, rest.tail))
      | some c =>
        if !startsWithSpace s then (done, fail (.wrongThing "a whitespace" (leadingByte c)) rest)
        else Scan.after done (takeAttribute rest) fun (raw, rest) =>
          scanAttributes fuel (.attr raw :: done) rest

/-- Cuts a tag. -/
def scanTag (done : List Token) (s : Span) : Scan (TagEnd × Span) :=
  Scan.after done (takeQName s.tail) fun (name, rest) =>
    scanAttributes (rest.chars.length + 1) (.tagStart name s.offset :: done) rest

/-- Takes a closing tag: its name. -/
def takeCloseTag : Reader QName := fun s => do
  let (name, rest) ← takeQName (s.drop 2)
  return (name, ← takeChar '>' (skipSpace rest))

/-- Takes a stretch of text, which must not hold the end of a section of raw text. -/
def takeCharacters : Reader Span := fun s => do
  let (content, rest) ← takeUntil (fun cs => cs.head? = some '<') s
  if Text.contains [']', ']', '>'] content then fail .invalidText rest
  else return (⟨s.offset, content⟩, rest)

/-- What stands at the front of content. -/
inductive Markup where
  | nothing
  | comment
  | cdata
  | instruction
  | closeTag
  | tag
  | unknown
  | characters
  deriving DecidableEq, Repr

/-- Tells what stands at the front of content. -/
def markupOf (cs : List Char) : Markup :=
  match cs with
  | [] => .nothing
  | '<' :: '!' :: rest =>
    if ['-', '-'].isPrefixOf rest then .comment
    else if "[CDATA[".toList.isPrefixOf rest then .cdata
    else .unknown
  | '<' :: '?' :: _ => .instruction
  | '<' :: '/' :: _ => .closeTag
  | ['<'] => .unknown
  | '<' :: _ => .tag
  | _ => .characters

/-- Cuts content inside `depth` elements, up to the closing tag of the outermost of them. -/
def scanContent : Nat → Nat → List Token → Span → Scan Span
  | 0, _, done, s => (done, .ok s)
  | fuel + 1, depth, done, s =>
    match markupOf s.chars with
    | .nothing => (done, .ok s)
    | .comment => Scan.after done (takeComment s) (scanContent fuel depth done)
    | .cdata => Scan.after done (takeCData s) (scanContent fuel depth done)
    | .instruction => Scan.after done (takeInstruction s) (scanContent fuel depth done)
    | .unknown => (done, fail .unknownToken s)
    | .closeTag =>
      Scan.after done (takeCloseTag s) fun (name, rest) =>
        let done := .closeTag name s.offset rest.offset :: done
        if depth ≤ 1 then (done, .ok rest) else scanContent fuel (depth - 1) done rest
    | .tag =>
      let (done, result) := scanTag done s
      Scan.after done result fun (tagEnd, rest) =>
        scanContent fuel (if tagEnd = .opened then depth + 1 else depth) done rest
    | .characters =>
      Scan.after done (takeCharacters s) fun (content, rest) =>
        scanContent fuel depth (.text content :: done) rest

/-- Cuts content that stands for itself, such as the replacement text of an entity. -/
def scanFragment (s : Span) : Scan Span := scanContent (s.chars.length + 1) 1 [] s

/-- Cuts an element with all of its content. -/
def scanElement (done : List Token) (s : Span) : Scan Span :=
  let (done, result) := scanTag done s
  Scan.after done result fun (tagEnd, rest) =>
    if tagEnd = .opened then scanContent (rest.chars.length + 1) 1 done rest else (done, .ok rest)

/-- Takes white space, comments and instructions as far as there are any. -/
def takeAllMisc (s : Span) : Except Fault Span := takeMisc (s.chars.length + 1) s

/-- Takes a byte order mark, the declaration of the document, and what may follow it. -/
def takeStart (s : Span) : Except Fault Span := do
  let s := if s.head? = some (Char.ofNat 0xFEFF) then s.tail else s
  let s ← if s.startsWith "<?xml ".toList then takeDeclaration s else pure s
  takeAllMisc s

/-- Cuts what stands in front of the root element. -/
def scanProlog (s : Span) : Scan Span :=
  Scan.after [] (takeStart s) fun s =>
    if s.startsWith "<!DOCTYPE".toList then
      let (done, result) := scanDoctype s
      Scan.after done result fun s => (done, takeAllMisc s)
    else ([], .ok s)

/-- Cuts the root element, if there is one, and checks that nothing else follows it. -/
def scanRoot (done : List Token) (s : Span) : Scan Unit :=
  let (done, result) := if s.head? = some '<' then scanElement done s else (done, .ok s)
  let rest := do
    let s ← takeAllMisc (← result)
    if s.atEnd then return () else fail .unknownToken s
  (done, rest)

/-- Cuts a document into tokens. -/
def scanDocument (text : List Char) : Scan Unit :=
  let (done, result) := scanProlog (Span.ofText text)
  let (done, result) := Scan.after done result (scanRoot done)
  (done.reverse, result)

end StatementLens.Xml
