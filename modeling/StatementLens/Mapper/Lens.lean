import StatementLens.Mapper.Basic

/-!
# Lenses

A lens stands at the name of a method. Its action leads to the statement of the method, or adds an
empty statement to the XML mapper if there is none.
-/

namespace StatementLens

/-- What a lens does. -/
inductive Action where
  /-- Opens the XML mapper with a statement selected. -/
  | navigate (uri : String) (selection : Range)
  /-- Opens the XML mapper and inserts a new statement. -/
  | generate (uri : String) (position : Position) (skeleton : String)
  deriving DecidableEq, Repr, Inhabited

namespace Action

/-- The command that adds a statement to an XML mapper. -/
def addSectionCommand : String := "mybatisx.open_and_add_new_section"

/-- The command that an editor runs for the action. -/
def command : Action → String
  | .navigate _ _ => "vscode.open"
  | .generate _ _ _ => addSectionCommand

/-- What an editor shows for the action. -/
def title : Action → String
  | .navigate _ _ => "Go to Mapper xml"
  | .generate _ _ _ => "Create in Mapper xml"

/-- What an editor explains about the action. -/
def tooltip : Action → Option String
  | .navigate _ _ => some "will open specific .xml file"
  | .generate _ _ _ => none

/-- The XML mapper that the action is about. -/
def uri : Action → String
  | .navigate uri _ => uri
  | .generate uri _ _ => uri

end Action

/-- An action at the name of a method. -/
structure Lens where
  range : Range
  action : Action
  deriving DecidableEq, Repr, Inhabited

/-- An empty statement, with the line breaks that set it off. -/
def skeleton (kind : StatementKind) (name : String) : String :=
  "\n    <" ++ kind.elementName ++ " id=\"" ++ name ++ "\">\n          \n    </" ++ kind.elementName
    ++ ">\n\n"

/-- Where the cursor goes after a statement has been inserted: to the end of the third line of the
inserted text, if it has one. Lines and characters are counted in 32 bits. -/
def cursorAfterInsert (at_ : Position) (inserted : String) : Position :=
  match (Text.splitOn (· = '\n') inserted.toList)[2]? with
  | some body => ⟨(at_.line + 2) % UInt32.size, Text.unitLength body % UInt32.size⟩
  | none => at_

/-- The action for a method: to its statement if the XML mapper has one, else to a new one. -/
def XmlMapper.actionFor (mapper : XmlMapper) (method : JavaMethod) : Action :=
  match mapper.find? method.name with
  | some statement => .navigate mapper.uri ⟨statement.start, statement.stop⟩
  | none =>
    .generate mapper.uri mapper.insertPosition
      (skeleton (StatementKind.infer method.name) method.name)

end StatementLens
