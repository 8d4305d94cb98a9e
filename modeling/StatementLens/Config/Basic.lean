import StatementLens.Failure
import StatementLens.Json.Decode
import StatementLens.Text.Bytes

/-!
# Configuration

The conventions of a project: where its Java sources are, which interfaces its mappers extend, and
which directories and files are not searched for XML.
-/

namespace StatementLens

open Json (Record)

/-- The conventions of a project. -/
structure Config where
  /-- Source roots, as relative paths. -/
  sourceRoots : List String
  /-- If there are any, a mapper extends one of these or carries the annotation of mappers. -/
  baseInterfaces : List String
  /-- Names of directories that are never searched. -/
  excludeDirs : List String
  /-- Files with more bytes are not looked at. -/
  maxXmlFileSize : Nat
  deriving DecidableEq, Repr

namespace Config

/-- The conventions of a project that does not say otherwise. -/
def standard : Config where
  sourceRoots := ["src/main/java"]
  baseInterfaces := []
  excludeDirs := ["target", "build", "out", "node_modules", ".git"]
  maxXmlFileSize := 2 * 1024 * 1024

instance : Inhabited Config := ⟨standard⟩

/-- The names between the slashes of a source root, which may lean either way. -/
def rootParts (root : String) : List String :=
  ((Text.splitOn (fun c => c = '/' || c = '\\') root.toList).filter fun part => !part.isEmpty).map
    String.ofList

/-- The names of each source root that has any. -/
def sourceRootParts (config : Config) : List (List String) :=
  (config.sourceRoots.map rootParts).filter fun parts => !parts.isEmpty

/-- Reads a list of strings. -/
def decodeStrings : Json.Decoder (List String) := Json.decodeList Json.decodeString

/-- The fields of a configuration, each of which may be left out. -/
def record : Record Config :=
  ((((Record.withDefault "sourceRoots" decodeStrings standard.sourceRoots).map Config.mk).andAlso
    (Record.withDefault "baseInterfaces" decodeStrings standard.baseInterfaces)).andAlso
    (Record.withDefault "excludeDirs" decodeStrings standard.excludeDirs)).andAlso
    (Record.withDefault "maxXmlFileSize" (Json.decodeUnsigned 64) standard.maxXmlFileSize)

/-- A configuration as errors name it. -/
def title : String := "struct LensConfig"

/-- Reads a configuration from an object, or from an array whose last items may be left out. -/
def decode : Json.Decoder Config
  | .obj fields => record.ofFields fields
  | .arr items => record.ofItems title true .direct items
  | j => .error (.invalidType j title)

/-- Reads a configuration from the options of an editor: either the options themselves, or what they
hold under the name of the program. Null stands for the standard configuration. -/
def ofOptions (options : Json) : Except Failure Config :=
  match (options.get? "mapperlens").getD options with
  | .null => .ok standard
  | j => (decode j).mapError fun e => .invalidArgument e.message

/-- Writes a configuration. -/
def toJson (config : Config) : Json :=
  let strings (ss : List String) : Json := .arr (ss.map .str)
  .obj [("sourceRoots", strings config.sourceRoots),
    ("baseInterfaces", strings config.baseInterfaces),
    ("excludeDirs", strings config.excludeDirs), ("maxXmlFileSize", .nat config.maxXmlFileSize)]

end Config

end StatementLens
