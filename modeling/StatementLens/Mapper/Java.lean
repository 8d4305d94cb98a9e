import StatementLens.Config.Basic
import StatementLens.Document
import StatementLens.Java.Source
import StatementLens.Mapper.Basic

/-!
# Java mappers

A Java source declares a mapper if it is well formed and has an interface of its own. If base
interfaces are configured, the interface must extend one of them or be annotated as a mapper.
-/

namespace StatementLens

/-- Whether a document can be a Java source: its file is named like one, or it has no file. -/
def Document.isJava (d : Document) : Bool :=
  match d.path? with
  | some path => path.extension? = some (Text.encodeUtf8 "java")
  | none => true

namespace Java

/-- The annotations that bind a method to a statement in the source itself. -/
def statementAnnotations : List String :=
  let kinds := ["Select", "Insert", "Update", "Delete"]
  kinds ++ kinds.map (· ++ "Provider")

/-- The annotation of mappers. -/
def mapperAnnotation : String := "Mapper"

/-- Whether the statement of a method is looked for in an XML mapper: the method has no body, and no
annotation binds it to a statement. -/
def Method.isMapped (m : Method) : Bool :=
  !m.hasBody
    && !m.annotations.any fun name =>
      statementAnnotations.contains (String.ofList (simpleName name))

/-- The simple names of the configured base interfaces. -/
def baseNames (config : Config) : List (List Char) :=
  (config.baseInterfaces.map fun name => simpleName name.toList).filter fun name => !name.isEmpty

/-- Whether an interface is a mapper under some base interfaces. -/
def Interface.meets (bases : List (List Char)) (i : Interface) : Bool :=
  bases.isEmpty
    || i.annotations.any (fun name => simpleName name = mapperAnnotation.toList)
    || i.extended.any fun type => bases.contains (simpleName type)

end Java

namespace JavaMapper

/-- Whether a document declares a mapper. -/
def isDeclaredIn (config : Config) (d : Document) : Bool :=
  d.isJava
    && match (Java.Source.read? d.text).bind Java.Source.interface? with
      | some i => i.meets (Java.baseNames config)
      | none => false

/-- The mapper that a document declares, with the methods whose statements are in XML. Only well-formed
sources are read. No lenses are made for others, whatever might be mended in them. -/
def read? (d : Document) : Option JavaMapper := do
  if d.isJava then
    let source ← Java.Source.read? d.text
    let i ← source.interface?
    return {
      uri := d.uri
      package := source.package.map String.ofList
      name := String.ofList i.name
      methods := (i.methods.filter Java.Method.isMapped).map fun m =>
        ⟨String.ofList m.name, d.source.positionAt m.start⟩ }
  else none

end JavaMapper

end StatementLens
