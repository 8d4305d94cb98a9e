import StatementLens.Text.Span
import StatementLens.Xml.Char
import StatementLens.Xml.Fault

/-!
# Names, quotes and other small pieces of XML

Each reader takes a piece off the front of a span, or tells what is wrong with it.
-/

namespace StatementLens.Xml

open Text

/-- Takes a value of type `α` off the front of a span. -/
abbrev Reader (α : Type) := Span → Except Fault (α × Span)

/-- A name with an optional part in front of a colon, which stands for a namespace. -/
structure QName where
  space : List Char
  name : List Char
  deriving DecidableEq, Repr, Inhabited

/-- A qualified name as it is written. -/
def QName.toString (q : QName) : String :=
  if q.space.isEmpty then String.ofList q.name else String.ofList (q.space ++ ':' :: q.name)

/-- A fault just before the rest `s`. -/
def fail {α : Type} (cause : Cause) (s : Span) : Except Fault α := .error ⟨cause, s.offset⟩

/-- The first byte of a character, read as a character of its own. -/
def leadingByte (c : Char) : Char :=
  if c.toNat < 0x80 then c
  else if c.toNat < 0x800 then Char.ofNat (0xC0 + c.toNat / 64)
  else if c.toNat < 0x10000 then Char.ofNat (0xE0 + c.toNat / 4096)
  else Char.ofNat (0xF0 + c.toNat / 262144)

/-- The span without white space at its front. -/
def skipSpace (s : Span) : Span := s.dropWhile isSpace

/-- Whether a span begins with white space. -/
def startsWithSpace (s : Span) : Bool := (s.head?.map isSpace).getD false

/-- Takes white space, of which there must be some. -/
def takeSpace (s : Span) : Except Fault Span :=
  match s.head? with
  | none => fail .endOfStream s
  | some c =>
    if isSpace c then .ok (skipSpace s) else fail (.wrongThing "a whitespace" (leadingByte c)) s

/-- Takes one given character. -/
def takeChar (c : Char) (s : Span) : Except Fault Span :=
  match s.head? with
  | none => fail .endOfStream s
  | some d => if d = c then .ok s.tail else fail (.wrongChar c (leadingByte d)) s

/-- Takes a fixed text. -/
def takeText (text : String) (s : Span) : Except Fault Span :=
  if s.startsWith text.toList then .ok (s.drop text.length) else fail (.wrongText text) s

/-- Takes an equals sign with white space around it. -/
def takeEquals (s : Span) : Except Fault Span := do
  return skipSpace (← takeChar '=' (skipSpace s))

/-- Takes a quote of either kind. -/
def takeQuote : Reader Char := fun s =>
  match s.head? with
  | none => fail .endOfStream s
  | some c =>
    if c = '"' || c = '\'' then .ok (c, s.tail)
    else fail (.wrongThing "a quote" (leadingByte c)) s

/-- Takes a name, which may be missing only at the end of the span. -/
def takeNameOrEnd : Reader (List Char) := fun s =>
  match s.head? with
  | none => .ok ([], s)
  | some c => if isNameStart c then .ok (s.splitWhile isNameChar) else fail .invalidName s

/-- Takes a name. -/
def takeName : Reader (List Char) := fun s => do
  let (name, rest) ← takeNameOrEnd s
  if name.isEmpty then fail .invalidName s else return (name, rest)

/-- Whether the first character of a text may begin a name; an empty text has none. -/
def beginsLikeName (cs : List Char) : Bool := (cs.head?.map isNameStart).getD true

/-- Takes a qualified name. -/
def takeQName : Reader QName := fun s =>
  let (chars, rest) := s.splitWhile isNameChar
  let (front, back) := chars.span (· ≠ ':')
  let q : QName := match back with
    | [] => ⟨[], front⟩
    | _ :: name => ⟨front, name⟩
  if q.name.contains ':' || q.name.isEmpty || !beginsLikeName q.name || !beginsLikeName q.space then
    fail .invalidName s
  else .ok (q, rest)

/-- Carries `takeUntil`; `taken` holds the characters taken, the last one first. -/
def takeUntilOnto (stop : List Char → Bool) (taken : List Char) (offset : Nat) :
    List Char → Except Fault (List Char × Span)
  | [] => .ok (taken.reverse, ⟨offset, []⟩)
  | c :: rest =>
    if !isXmlChar c then .error ⟨.nonXmlChar c, offset⟩
    else if stop (c :: rest) then .ok (taken.reverse, ⟨offset, c :: rest⟩)
    else takeUntilOnto stop (c :: taken) (offset + c.utf8Size) rest

/-- Takes characters up to the first place where `stop` accepts what follows. -/
def takeUntil (stop : List Char → Bool) : Reader (List Char) := fun s =>
  takeUntilOnto stop [] s.offset s.chars

/-- Takes characters up to a fixed text, and the text. -/
def takeThrough (text : String) : Reader (List Char) := fun s => do
  let (taken, rest) ← takeUntil text.toList.isPrefixOf s
  return (taken, ← takeText text rest)

/-- Takes what stands up to a quote, and the quote. -/
def takeLiteral (quote : Char) : Reader Span := fun s => do
  let (taken, rest) := s.splitWhile (· ≠ quote)
  return (⟨s.offset, taken⟩, ← takeChar quote rest)

/-- An attribute of a tag, its value not looked at yet. -/
structure RawAttribute where
  name : QName
  value : Span
  start : Nat
  deriving DecidableEq, Repr

/-- Takes an attribute. -/
def takeAttribute : Reader RawAttribute := fun s => do
  let (name, rest) ← takeQName s
  let rest ← takeEquals rest
  let (quote, rest) ← takeQuote rest
  let (value, after) ← takeUntil (fun cs => cs.head? = some quote || cs.head? = some '<') rest
  return (⟨name, ⟨rest.offset, value⟩, s.offset⟩, ← takeChar quote after)

end StatementLens.Xml
