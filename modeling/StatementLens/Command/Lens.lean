import StatementLens.Command.Table
import StatementLens.Correlate
import StatementLens.Files.Look
import StatementLens.Json.Writer
import StatementLens.Mapper.Codec

/-!
# Listing the lenses of a file

The lenses that an editor would show in a file, as a table or as JSON.
-/

namespace StatementLens.Command

/-- Why lenses cannot be listed. -/
inductive LensFault where
  /-- A file cannot be read. -/
  | file (fault : FileFault)
  /-- The configuration does not fit. -/
  | config (failure : Failure)
  /-- The lenses cannot be computed. -/
  | service (failure : Failure)

/-- How a fault is built. -/
def LensFault.describe : LensFault → String
  | .file fault => fault.describe
  | .config failure => failure.describe
  | .service failure => failure.describe

/-- Where an action leads. -/
def target : Action → String
  | .navigate uri selection => uri ++ ":" ++ toString (selection.start.line + 1)
  | .generate uri position _ => uri ++ ":" ++ toString (position.line + 1) ++ " (new)"

/-- The text in a range of a document. -/
def textIn (d : Document) (range : Range) : String :=
  let start := d.source.offsetAt range.start
  let stop := d.source.offsetAt range.stop
  String.ofList (Text.slice start stop d.text)

/-- The row of a lens. -/
def lensRow (d : Document) (lens : Lens) : List String :=
  [toString (lens.range.start.line + 1), textIn d lens.range, lens.action.title, target lens.action]

/-- The table of some lenses. -/
def lensTable (d : Document) (lenses : List Lens) : Table :=
  ⟨["Line", "Method", "Action", "Target"], lenses.map (lensRow d)⟩

/-- What is printed for the lenses of the document at a path. -/
def lensText (path : Path) (d : Document) (json : Bool) (lenses : List Lens) : String :=
  if json then (Json.arr (lenses.map Lens.toJson)).writePretty "" ++ "\n"
  else if lenses.isEmpty then "No mapper lenses for " ++ path.toStringLossy ++ "\n"
  else String.join ((lensTable d lenses).lines.map fun line => line ++ "\n")

/-- What lenses are computed from: a file, the folder around it, and its configuration. -/
structure LensTask where
  path : Path
  workspace : Workspace
  config : Config

/-- Finds the file and the folder that a call is about. Without a folder the current one is meant.
-/
def LensTask.find (disk : Disk) (file : Path) (folder : Option Path) :
    Except LensFault LensTask := do
  let path ← (disk.canonical file).mapError .file
  let folder ← match folder with
    | some folder => (disk.canonical folder).mapError .file
    | none => .ok (Disk.pathOf disk.current)
  let config ← (Config.load disk folder).mapError .config
  return ⟨path, ⟨[folder]⟩, config⟩

/-- What has to be looked at to find the task of a call. -/
def LensTask.looks (file : Path) (folder : Option Path) : List Look :=
  [.place file, .config (folder.getD (.ofString "."))]

/-- What has to be looked at for a task. -/
def LensTask.look? (task : LensTask) : Option Look :=
  (task.config.searchRoot? task.workspace task.path).map .below

/-- The lenses of a document of a task. -/
def LensTask.lenses (disk : Disk) (task : LensTask) (d : Document) : Attempt (List Lens) :=
  Correlate.lenses disk task.config task.workspace (.ofDisk disk) d

/-- Lists the lenses of a file. -/
def listLenses (disk : Disk) (file : Path) (folder : Option Path) (json : Bool) :
    Logged (Except LensFault String) := do
  match LensTask.find disk file folder with
  | .error fault => return .error fault
  | .ok task =>
    note (Correlate.ready task.config)
    match Document.load disk task.path with
    | .error fault => return .error (.file fault)
    | .ok d =>
      match ← (task.lenses disk d).run with
      | .error failure => return .error (.service failure)
      | .ok lenses =>
        note ⟨.info, "mapperlens_cli::lens",
          toString lenses.length ++ " lenses for " ++ task.path.toStringLossy⟩
        return .ok (lensText task.path d json lenses)

end StatementLens.Command
