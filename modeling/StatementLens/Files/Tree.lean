import StatementLens.Path

/-!
# File trees

What is in a file system: files with their bytes, links with their targets, and folders with named
entries.
-/

namespace StatementLens

/-- A file, a link or a folder. -/
inductive FileTree where
  | file (bytes : List UInt8)
  | link (target : Path)
  | folder (entries : List (FileName × FileTree))
  deriving Repr, Inhabited

namespace FileTree

/-- Whether a tree is a folder. -/
def isFolder : FileTree → Bool
  | .folder _ => true
  | _ => false

/-- The entry of a folder with a name. -/
def entry? (name : FileName) : FileTree → Option FileTree
  | .folder entries => entries.lookup name
  | _ => none

/-- What stands at the end of a row of names, without following links. -/
def at? : List FileName → FileTree → Option FileTree
  | [], t => some t
  | name :: rest, t => (t.entry? name).bind (at? rest)

/-- Replaces the entry with a name, or adds it at the end. -/
def setEntry (name : FileName) (t : FileTree) :
    List (FileName × FileTree) → List (FileName × FileTree)
  | [] => [(name, t)]
  | (other, old) :: rest =>
    if other = name then (name, t) :: rest else (other, old) :: setEntry name t rest

/-- Puts a tree at the end of a row of names, with new folders on the way where there are none. -/
def put : FileTree → List FileName → FileTree → FileTree
  | _, [], new => new
  | t, name :: rest, new =>
    let inner := put ((t.entry? name).getD (.folder [])) rest new
    match t with
    | .folder entries => .folder (setEntry name inner entries)
    | _ => .folder [(name, inner)]

end FileTree

end StatementLens
