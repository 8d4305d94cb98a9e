import StatementLens.Text.Bytes
import StatementLens.Text.Lowercase
import StatementLens.Text.Position

/-!
# Mappers

A mapper is declared twice: as a Java interface with methods, and as an XML file with statements. An
XML mapper belongs to the interface whose qualified name is its namespace, and a statement to the
method whose name is its id.
-/

namespace StatementLens

/-- The kinds of statements, by the elements that declare them. -/
inductive StatementKind where
  | select
  | insert
  | delete
  | update
  | sql
  deriving DecidableEq, Repr, Inhabited

namespace StatementKind

/-- The name of the element that declares a statement of this kind. -/
def elementName : StatementKind → String
  | .select => "select"
  | .insert => "insert"
  | .delete => "delete"
  | .update => "update"
  | .sql => "sql"

/-- All kinds. -/
def all : List StatementKind := [.select, .insert, .delete, .update, .sql]

/-- The kind that an element of this name declares. -/
def ofElementName? (name : String) : Option StatementKind :=
  all.find? fun kind => kind.elementName = name

/-- The kinds whose names are looked for in the names of methods, the strongest first. -/
def keywords : List StatementKind := [.select, .insert, .delete, .update]

/-- The kind of the statement that a method of this name would have: the strongest keyword that
stands in the name in any case, and `sql` if none does. -/
def infer (methodName : String) : StatementKind :=
  let lower := Text.lowercase methodName.toList
  (keywords.find? fun kind => Text.contains kind.elementName.toList lower).getD .sql

end StatementKind

/-- An abstract method of a Java mapper and the place of its name. -/
structure JavaMethod where
  name : String
  position : Position
  deriving DecidableEq, Repr, Inhabited

/-- A Java mapper interface with its methods in the order of the source. -/
structure JavaMapper where
  uri : String
  package : Option String
  name : String
  methods : List JavaMethod
  deriving DecidableEq, Repr, Inhabited

/-- The name of an interface with its package, if it has one. -/
def JavaMapper.qualifiedName (mapper : JavaMapper) : String :=
  match mapper.package with
  | some package => if package.isEmpty then mapper.name else package ++ "." ++ mapper.name
  | none => mapper.name

/-- A statement of an XML mapper; its name is the id of its element. -/
structure Statement where
  name : String
  kind : StatementKind
  start : Position
  stop : Position
  deriving DecidableEq, Repr, Inhabited

/-- An XML mapper with its statements in the order of the file and the place for new ones. -/
structure XmlMapper where
  uri : String
  namespace_ : String
  statements : List Statement
  insertPosition : Position
  deriving DecidableEq, Repr, Inhabited

/-- The first statement with this name. -/
def XmlMapper.find? (mapper : XmlMapper) (name : String) : Option Statement :=
  mapper.statements.find? fun statement => statement.name = name

end StatementLens
