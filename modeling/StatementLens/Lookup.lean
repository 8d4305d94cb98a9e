import StatementLens.Document
import StatementLens.Files.Walk
import StatementLens.Mapper.Xml
import StatementLens.Workspace

/-!
# Looking mappers up

The XML mapper of a Java mapper is the first one, among the XML files of its project, whose
namespace is the qualified name of the Java mapper. Malformed files are passed over, but a mapper
whose root element stops in front of its start breaks the search off.
-/

namespace StatementLens

/-- Where the texts of files come from: the text of each file that can be read. -/
abbrev TextSource := Path → Option String

namespace TextSource

/-- The texts on a disk. -/
def ofDisk (disk : Disk) : TextSource := fun path => (disk.readText path).toOption

/-- The texts that are open in an editor, by the URL of their files, and the others from a disk. -/
def ofOpen (opened : Url → Option String) (disk : Disk) : TextSource := fun path =>
  match (Url.ofPath? path).bind opened with
  | some text => some text
  | none => ofDisk disk path

end TextSource

namespace Lookup

/-- Makes an event of this part of the program. -/
def event (text : String) : Event := ⟨.debug, "mapperlens_xml::service", text⟩

/-- What a file turns out to be. -/
inductive Examined where
  /-- The mapper that is looked for. -/
  | found (mapper : XmlMapper)
  /-- Something else, with what is told of it. -/
  | other (events : List Event)
  /-- A mapper that breaks the search off. -/
  | broken

/-- Whether a text may be that of a mapper with a namespace. -/
def mayHold (namespace_ : List Char) (text : List Char) : Bool :=
  Text.contains "<mapper".toList text && Text.contains namespace_ text

/-- Looks at a file for the mapper with a namespace. -/
def examine (source : TextSource) (namespace_ : String) (path : Path) : Examined :=
  match source path with
  | none => .other [event ("Unreadable XML file " ++ path.toStringLossy)]
  | some text =>
    if mayHold namespace_.toList text.toList then
      match Url.ofPath? path with
      | none => .other []
      | some url =>
        match XmlMapper.parse url.toString text.toList with
        | .ok (some mapper) =>
          if mapper.namespace_ = namespace_ then .found mapper else .other []
        | .ok none => .other []
        | .error (.malformed text) =>
          .other [event ("Skipping malformed mapper XML: " ++ (Failure.malformed text).message)]
        | .error (.inverted _ _) => .broken
    else .other []

/-- A search that has been broken off. Which task it was and in what words it ended depends on the
run and not on the files, and is left out. -/
def brokenOff : Failure := .defect "XML scan failed: task panicked"

/-- Looks through files for the mapper with a namespace. -/
def search (source : TextSource) (namespace_ : String) : List Path → Attempt (Option XmlMapper)
  | [] => return none
  | path :: rest =>
    match examine source namespace_ path with
    | .found mapper => return some mapper
    | .broken => throw brokenOff
    | .other events => do
      noteAll events
      search source namespace_ rest

/-- Looks below a folder for the mapper with a namespace. -/
def searchBelow (disk : Disk) (config : Config) (source : TextSource) (namespace_ : String)
    (folder : Path) : Attempt (Option XmlMapper) := do
  let files := Walk.allFiles disk config folder
  noteAll (Walk.sizeEvents config files)
  search source namespace_ (Walk.smallEnough config files)

/-- The XML mapper of a Java mapper. It is looked for below the workspace folder of the Java file,
or else below the folder in front of its source root. -/
def find (disk : Disk) (config : Config) (workspace : Workspace) (source : TextSource)
    (mapper : JavaMapper) : Attempt (Option XmlMapper) := do
  match (Document.pathOf? mapper.uri).bind (config.searchRoot? workspace) with
  | none => return none
  | some folder =>
    let found ← searchBelow disk config source mapper.qualifiedName folder
    if let some xml := found then
      note (event (mapper.qualifiedName ++ " -> " ++ xml.uri))
    return found

end Lookup

end StatementLens
