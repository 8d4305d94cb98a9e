import StatementLens.Config.Basic
import StatementLens.Event
import StatementLens.Files.Ignore

/-!
# The XML files of a folder

All XML files below a folder are listed, depth first and by name. Hidden and ignored entries, links,
the folders that the configuration excludes, and files that are too large are left out.
-/

namespace StatementLens

/-- A file and its size. -/
structure SizedFile where
  path : Path
  size : Nat
  deriving DecidableEq, Repr

namespace Walk

/-- Whether a name is hidden. -/
def isHidden (name : FileName) : Bool := name.head? = some Path.dot

/-- Whether an entry is left out, given the levels of rules around it. -/
def leavesOut (disk : Disk) (config : Config) (levels : List Ignore.Level) (names : List FileName)
    (path : Path) (name : FileName) (isFolder : Bool) : Bool :=
  match Ignore.verdict disk levels names path isFolder with
  | some .ignore => true
  | some .keep => excluded
  | none => isHidden name || excluded
where
  excluded : Bool := isFolder && config.excludeDirs.any fun dir => Text.encodeUtf8 dir = name

/-- Whether a path has the extension of XML files. -/
def isXml (p : Path) : Bool := p.extension? = some (Text.encodeUtf8 "xml")

mutual

/-- The XML files of a tree, which stands at the end of `names` and is called `path`. -/
def filesOf (disk : Disk) (config : Config) (levels : List Ignore.Level) (names : List FileName)
    (path : Path) : FileTree → List SizedFile
  | .file bytes => if isXml path then [⟨path, bytes.length⟩] else []
  | .link _ => []
  | .folder entries =>
    let inside := Ignore.Level.ofFolder disk names :: levels
    ((filesOfEntries disk config inside names path entries).mergeSort
      fun a b => decide (a.1 ≤ b.1)).flatMap Prod.snd

/-- The XML files of the entries of a folder, with the name of each entry. -/
def filesOfEntries (disk : Disk) (config : Config) (levels : List Ignore.Level)
    (names : List FileName) (path : Path) :
    List (FileName × FileTree) → List (FileName × List SizedFile)
  | [] => []
  | (name, t) :: rest =>
    let inner := names ++ [name]
    let called := path.join ⟨name⟩
    let files :=
      if leavesOut disk config levels inner called name t.isFolder then []
      else filesOf disk config levels inner called t
    (name, files) :: filesOfEntries disk config levels names path rest

end

/-- The folders around the place that names lead to, from the inside out. -/
def around (names : List FileName) : List (List FileName) :=
  ((List.range names.length).map fun n => names.take n).reverse

/-- The name that stands for the standard input instead of a place. -/
def standardInput : Path := .ofString "-"

/-- The XML files below a path of any size. A path that leads to a file is its only place. -/
def allFiles (disk : Disk) (config : Config) (start : Path) : List SizedFile :=
  if start.sameAs standardInput then []
  else
    match disk.locate start with
    | .error _ => []
    | .ok names =>
      match disk.root.at? names with
      | none => []
      | some t =>
        filesOf disk config ((around names).map (Ignore.Level.ofFolder disk)) names start t

/-- What is told of a file that is too large. -/
def tooLarge (file : SizedFile) : Event :=
  ⟨.debug, "mapperlens_xml::scanner",
    "Skipping " ++ file.path.toStringLossy ++ " (" ++ toString file.size ++ " bytes)"⟩

/-- The files that are small enough to be looked at. -/
def smallEnough (config : Config) (files : List SizedFile) : List Path :=
  (files.filter fun file => file.size ≤ config.maxXmlFileSize).map SizedFile.path

/-- What is told of the files that are not looked at. -/
def sizeEvents (config : Config) (files : List SizedFile) : List Event :=
  (files.filter fun file => config.maxXmlFileSize < file.size).map tooLarge

/-- The XML files below a path. -/
def xmlFiles (disk : Disk) (config : Config) (start : Path) : List Path :=
  smallEnough config (allFiles disk config start)

end Walk

end StatementLens
