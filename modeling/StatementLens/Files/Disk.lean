import StatementLens.Failure
import StatementLens.Files.Tree

/-!
# Disks

A disk is a file tree with a current folder. Paths are followed on it name by name: links lead on to
their targets, and a double dot leads to the folder that holds the present one. Apart from the tree,
its user may keep rules of their own about the files to ignore.
-/

namespace StatementLens

/-- A file tree and the names that lead to the current folder. -/
structure Disk where
  root : FileTree
  current : List FileName
  /-- The bytes of the file in which the user says what is ignored in repositories. -/
  userRules : List UInt8
  deriving Repr, Inhabited

namespace Disk

/-- The longest name of an entry, in bytes. -/
def maxNameLength : Nat := 255

/-- The longest path, in bytes. -/
def maxPathLength : Nat := 4095

/-- How many links are followed on the way to one place. -/
def maxLinks : Nat := 40

/-- Where following names has led to, without following links. -/
inductive Reached where
  /-- To a place, given by the names that lead to it, the last one first. -/
  | place (back : List FileName)
  /-- To a link in a folder, with what is left to follow. -/
  | link (target : Path) (back : List FileName) (rest : List FileName)

/-- Follows the pieces of a path from a place on, up to a link. All but the last place must be
folders, and so must the last if a slash or a dot follows it. -/
def follow (root : FileTree) : List FileName → List FileName → Except PathFault Reached
  | back, [] => .ok (.place back)
  | back, piece :: rest =>
    match root.at? back.reverse with
    | none => .error .notFound
    | some here =>
      if !here.isFolder then .error .notDirectory
      else if piece = [] || piece = [Path.dot] then follow root back rest
      else if piece = [Path.dot, Path.dot] then follow root back.tail rest
      else if maxNameLength < piece.length then .error .nameTooLong
      else
        match here.entry? piece with
        | none => .error .notFound
        | some (.link target) => .ok (.link target back rest)
        | some _ => follow root (piece :: back) rest

/-- Follows the pieces of a path and a number of links. -/
def followLinks (root : FileTree) : Nat → List FileName → List FileName →
    Except PathFault (List FileName)
  | links, back, pieces => do
    match ← follow root back pieces with
    | .place back => return back.reverse
    | .link target back rest =>
      match links with
      | 0 => throw .tooManyLinks
      | links + 1 =>
        let from_ := if target.isAbsolute then [] else back
        followLinks root links from_ (Path.pieces target.bytes ++ rest)

/-- The names that lead to where a path leads, without links among them. -/
def locate (disk : Disk) (p : Path) : Except FileFault (List FileName) :=
  if p.bytes.contains 0 then .error .zeroByte
  else if p.bytes.isEmpty then .error (.refused .notFound)
  else if maxPathLength < p.bytes.length then .error (.refused .nameTooLong)
  else
    let back := if p.isAbsolute then [] else disk.current.reverse
    (followLinks disk.root maxLinks back (Path.pieces p.bytes)).mapError .refused

/-- What a path leads to. -/
def get (disk : Disk) (p : Path) : Except FileFault FileTree := do
  let names ← disk.locate p
  match disk.root.at? names with
  | some t => return t
  | none => throw (.refused .notFound)

/-- The absolute path with these names. -/
def pathOf (names : List FileName) : Path :=
  if names.isEmpty then ⟨[Path.slash]⟩ else ⟨names.flatMap fun name => Path.slash :: name⟩

/-- The absolute path to where a path leads, without links and dots in it. -/
def canonical (disk : Disk) (p : Path) : Except FileFault Path := (disk.locate p).map pathOf

/-- Whether a path leads to a file. -/
def isFile (disk : Disk) (p : Path) : Bool :=
  match disk.get p with
  | .ok (.file _) => true
  | _ => false

/-- Whether a path leads anywhere. -/
def has (disk : Disk) (p : Path) : Bool := (disk.locate p).isOk

/-- The bytes of the file that a path leads to. -/
def read (disk : Disk) (p : Path) : Except FileFault (List UInt8) := do
  match ← disk.get p with
  | .file bytes => return bytes
  | _ => throw (.refused .isDirectory)

/-- The text of the file that a path leads to. -/
def readText (disk : Disk) (p : Path) : Except FileFault String := do
  match Text.decodeUtf8 (← disk.read p) with
  | some text => return text
  | none => throw .notText

end Disk

end StatementLens
