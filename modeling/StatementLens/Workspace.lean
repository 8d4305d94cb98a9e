import StatementLens.Config.Basic
import StatementLens.Path

/-!
# Workspaces

The folders that an editor has open, and where in them the mappers of a project are: Java sources
below a source root, and XML anywhere in the folder that holds them.
-/

namespace StatementLens

/-- The folders open in an editor, as they were given. -/
structure Workspace where
  folders : List Path
  deriving DecidableEq, Repr, Inhabited

namespace Workspace

/-- Opens a folder, unless it is open under any spelling. -/
def add (w : Workspace) (folder : Path) : Workspace :=
  if w.folders.any fun f => f.sameAs folder then w else ⟨w.folders ++ [folder]⟩

/-- Closes a folder under every spelling. -/
def remove (w : Workspace) (folder : Path) : Workspace :=
  ⟨w.folders.filter fun f => !f.sameAs folder⟩

/-- The innermost folder around a path; of several spellings, the last one. -/
def folderOf? (w : Workspace) (path : Path) : Option Path :=
  (w.folders.filter fun folder => path.startsWith folder).foldl
    (fun best folder =>
      match best with
      | none => some folder
      | some b => if b.components.length ≤ folder.components.length then some folder else some b)
    none

/-- The name of a folder; the root and folders that end in a double dot have none. -/
def folderName (folder : Path) : String :=
  (folder.fileName?.map Text.decodeUtf8Lossy).getD ""

end Workspace

namespace Config

/-- The names in a path, as texts. -/
def namesOf (path : Path) : List String := path.names.map Text.decodeUtf8Lossy

/-- Whether one of the source roots begins at the front of a list of names. -/
def beginsRoot (config : Config) (names : List String) : Bool :=
  config.sourceRootParts.any fun parts => parts.isPrefixOf names

/-- The number of names in front of the first source root; the last name is that of a file and never
belongs to one. -/
def sourceRootIndex? (config : Config) (names : List String) : Option Nat :=
  let dirs := names.dropLast
  (List.range dirs.length).find? fun start => config.beginsRoot (dirs.drop start)

/-- Whether a path is that of a Java file below a source root, with a folder of this name in front
of it. An empty name stands for any folder. -/
def isMapperPath (config : Config) (path : Path) (folderName : String) : Bool :=
  path.extension? = some (Text.encodeUtf8 "java") &&
    match config.sourceRootIndex? (namesOf path) with
    | none => false
    | some start => folderName.isEmpty || ((namesOf path).take start).contains folderName

/-- The components in front of the name with index `start`. -/
def takeNames : Nat → List Component → List Component
  | _, [] => []
  | 0, .normal _ :: _ => []
  | start + 1, .normal name :: rest => .normal name :: takeNames start rest
  | start, c :: rest => c :: takeNames start rest

/-- The directory that is searched for the XML of a Java file: its workspace folder, or else what
stands in front of its source root. -/
def searchRoot? (config : Config) (w : Workspace) (path : Path) : Option Path :=
  match w.folderOf? path with
  | some folder => some folder
  | none => do
    let start ← config.sourceRootIndex? (namesOf path)
    let root := Path.ofComponents (takeNames start path.components)
    if root.bytes.isEmpty then none else some root

end Config

end StatementLens
