import StatementLens.Config.Load
import StatementLens.Files.Walk

/-!
# What to look at on a disk

A run looks at few places of a file system. Naming them beforehand lets them be copied to a disk in
memory, on which everything else is computed.
-/

namespace StatementLens

/-- A part of a file system. -/
inductive Look where
  /-- What a path leads to, and the folders on the way. -/
  | place (p : Path)
  /-- Everything below a path, with the rules around it that say what is ignored. -/
  | below (p : Path)
  deriving DecidableEq, Repr

namespace Look

/-- The name of the folder with the data of a repository. -/
def repositoryName : FileName := Text.encodeUtf8 ".git"

/-- The names of the files that say what is ignored. -/
def ruleNames : List FileName := [".ignore", ".gitignore"].map Text.encodeUtf8

/-- The files that say what is ignored in a folder. -/
def ruleFiles (folder : List FileName) : List Path :=
  [".ignore", ".gitignore", ".git", ".git/info/exclude"].map fun name =>
    (Disk.pathOf folder).join (.ofString name)

/-- Whether the bytes of a file are looked at, given its name. -/
def matters (name : FileName) : Bool :=
  Walk.isXml ⟨name⟩ || ruleNames.contains name || name = repositoryName
    || name = Text.encodeUtf8 Config.fileName

/-- The configuration of a folder. -/
def config (folder : Path) : Look := .place (folder.join (.ofString Config.fileName))

end Look

end StatementLens
