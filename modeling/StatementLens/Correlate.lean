import StatementLens.Lookup
import StatementLens.Mapper.Java
import StatementLens.Mapper.Lens
import StatementLens.Text.Word

/-!
# The lenses of a document

A document that declares a mapper has a lens at each method whose name can be found in it, if there
is an XML mapper for it. The steps on the way are services, which may be provided in any monad. If
one of them fails, there are no lenses at all.
-/

namespace StatementLens

/-- How a position is shown in events. -/
def Position.describe (p : Position) : String :=
  "TextPosition \x7b line: " ++ toString p.line ++ ", character: " ++ toString p.character
    ++ " \x7d"

/-- What lenses are made with. -/
structure Services (m : Type → Type) where
  /-- Whether a document declares a mapper. -/
  declaresMapper : Document → m Bool
  /-- Whether a document is in the right place in a workspace folder, which is given by its name. -/
  isPlaced : Document → String → m Bool
  /-- The mapper that a document declares. -/
  readMapper : Document → m (Option JavaMapper)
  /-- The XML mapper of a Java mapper. -/
  findXml : JavaMapper → m (Option XmlMapper)
  /-- Tells of an event. -/
  tell : Event → m Unit

namespace Correlate

/-- Makes an event of this part of the program. -/
def event (level : Level) (text : String) : Event := ⟨level, "mapperlens_core::correlator", text⟩

/-- The name of the workspace folder that a document is in. -/
def folderName (workspace : Workspace) (d : Document) : String :=
  match d.path?.bind workspace.folderOf? with
  | some folder => Workspace.folderName folder
  | none => ""

/-- The lens of a method, if its name can be found. -/
def lens? (d : Document) (xml : XmlMapper) (method : JavaMethod) : Option Lens :=
  (d.source.wordAt method.position).map fun range => ⟨range, xml.actionFor method⟩

/-- What is told of a method whose name cannot be found. -/
def noWord (method : JavaMethod) : Event :=
  event .trace ("No word at " ++ method.position.describe ++ " for method " ++ method.name)

/-- The lenses of methods. -/
def lensesOf {m : Type → Type} [Monad m] (services : Services m) (d : Document) (xml : XmlMapper) :
    List JavaMethod → m (List Lens)
  | [] => return []
  | method :: rest =>
    match lens? d xml method with
    | some lens => return lens :: (← lensesOf services d xml rest)
    | none => do
      services.tell (noWord method)
      lensesOf services d xml rest

end Correlate

open Correlate in
/-- The lenses of a document. -/
def Services.lenses {m : Type → Type} [Monad m] (services : Services m) (workspace : Workspace)
    (d : Document) : m (List Lens) := do
  if !(← services.declaresMapper d) then
    services.tell (event .trace (d.uri ++ " is not a mapper interface"))
    return []
  let folder := folderName workspace d
  if !(← services.isPlaced d folder) then
    services.tell
      (event .debug (d.uri ++ " is not a mapper class of project '" ++ folder ++ "'"))
    return []
  match ← services.readMapper d with
  | none => return []
  | some mapper =>
    if mapper.methods.isEmpty then return []
    match ← services.findXml mapper with
    | none =>
      services.tell (event .trace ("No XML mapper for " ++ mapper.qualifiedName))
      return []
    | some xml =>
      let lenses ← lensesOf services d xml mapper.methods
      services.tell (event .debug (toString lenses.length ++ " hints for " ++ d.uri))
      return lenses

namespace Correlate

/-- What is told once services are ready. -/
def ready (config : Config) : Event :=
  let list (items : List String) : String := "[" ++ ", ".intercalate (items.map Text.quoted) ++ "]"
  ⟨.debug, "mapperlens_runtime", "Correlator ready (source roots: " ++ list config.sourceRoots
    ++ ", base interfaces: " ++ list config.baseInterfaces ++ ")"⟩

/-- What is told once a Java mapper has been read. -/
def mapperRead (mapper : JavaMapper) : Event :=
  ⟨.trace, "mapperlens_java::parser::service", "Parsed " ++ mapper.qualifiedName ++ " with "
    ++ toString mapper.methods.length ++ " methods"⟩

/-- The services on a disk. -/
def services (disk : Disk) (config : Config) (workspace : Workspace) (source : TextSource) :
    Services Attempt where
  declaresMapper d := return JavaMapper.isDeclaredIn config d
  isPlaced d folder :=
    return match d.path? with
      | some path => config.isMapperPath path folder
      | none => false
  readMapper d := do
    let mapper := JavaMapper.read? d
    if let some mapper := mapper then note (mapperRead mapper)
    return mapper
  findXml := Lookup.find disk config workspace source
  tell event := note event

/-- The lenses of a document, with XML mappers on a disk. -/
def lenses (disk : Disk) (config : Config) (workspace : Workspace) (source : TextSource)
    (d : Document) : Attempt (List Lens) :=
  (services disk config workspace source).lenses workspace d

end Correlate

end StatementLens
