import StatementLens.Text.Utf8

/-!
# Paths

A path is a sequence of bytes. What it names is given by its components: repeated slashes, a slash
at the end and single dots inside it make no difference. A path that starts with a single dot keeps
it as a component, and double dots are never resolved.
-/

namespace StatementLens

/-- A file name or a piece of one. -/
abbrev FileName := List UInt8

/-- A path of a file system. -/
structure Path where
  bytes : List UInt8
  deriving DecidableEq, Repr, Inhabited

/-- A part of a path. -/
inductive Component where
  /-- The slash at the start of an absolute path. -/
  | root
  /-- A single dot at the start. -/
  | current
  /-- A double dot. -/
  | parent
  /-- A name. -/
  | normal (name : FileName)
  deriving DecidableEq, Repr, Inhabited

namespace Path

/-- The slash. -/
def slash : UInt8 := 0x2F

/-- The dot. -/
def dot : UInt8 := 0x2E

/-- The path that a text writes. -/
def ofString (s : String) : Path := ⟨Text.encodeUtf8 s⟩

/-- The text of a path, with replacement characters for what is no UTF-8. -/
def toStringLossy (p : Path) : String := Text.decodeUtf8Lossy p.bytes

/-- Whether a path starts with a slash. -/
def isAbsolute (p : Path) : Bool := p.bytes.head? = some slash

/-- The pieces of a byte sequence between slashes. -/
def pieces (bytes : List UInt8) : List FileName := Text.splitBytes slash bytes

/-- The component that a piece names, if it counts inside a path. -/
def innerComponent (piece : FileName) : Option Component :=
  if piece = [] || piece = [dot] then none
  else if piece = [dot, dot] then some .parent
  else some (.normal piece)

/-- The components of a path. -/
def components (p : Path) : List Component :=
  let parts := pieces p.bytes
  let inner := parts.filterMap innerComponent
  if p.isAbsolute then .root :: inner
  else if parts.head? = some [dot] then .current :: inner
  else inner

/-- Whether two paths have the same components. -/
def sameAs (p q : Path) : Bool := p.components = q.components

/-- Whether the components of `p` begin with those of `folder`. -/
def startsWith (p folder : Path) : Bool := folder.components.isPrefixOf p.components

/-- The names among the components of a path. -/
def names (p : Path) : List FileName :=
  p.components.filterMap fun
    | .normal name => some name
    | _ => none

/-- The name at the end of a path. -/
def fileName? (p : Path) : Option FileName :=
  match p.components.getLast? with
  | some (.normal name) => some name
  | _ => none

/-- What follows the last dot of a name, unless the dot is at its start. -/
def extensionOf (name : FileName) : Option FileName :=
  let back := name.reverse
  let ext := back.takeWhile (· ≠ dot)
  match back.dropWhile (· ≠ dot) with
  | [] => none
  | [_] => none
  | _ => some ext.reverse

/-- The extension of the name at the end of a path. -/
def extension? (p : Path) : Option FileName := p.fileName?.bind extensionOf

/-- A component as it is written. -/
def Component.bytes : Component → List UInt8
  | .root => [slash]
  | .current => [dot]
  | .parent => [dot, dot]
  | .normal name => name

/-- The path `q` taken from the directory `p`. -/
def join (p q : Path) : Path :=
  if q.isAbsolute then q
  else if p.bytes.isEmpty || p.bytes.getLast? = some slash then ⟨p.bytes ++ q.bytes⟩
  else ⟨p.bytes ++ slash :: q.bytes⟩

/-- The path with these components. -/
def ofComponents (cs : List Component) : Path :=
  cs.foldl (fun p c => p.join ⟨Component.bytes c⟩) ⟨[]⟩

end Path

end StatementLens
