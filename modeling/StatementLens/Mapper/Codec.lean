import StatementLens.Json.Decode
import StatementLens.Mapper.Lens

/-!
# Mappers and lenses in JSON

How positions, mappers and lenses are written to JSON and read from it.
-/

namespace StatementLens

open Json (Decoder DecodeError Origin Record)

/-! ## Positions -/

/-- Writes a position. -/
def Position.toJson (p : Position) : Json :=
  .obj [("line", .nat p.line), ("character", .nat p.character)]

/-- The fields of a position. -/
def Position.record : Record Position :=
  ((Record.required "line" (Json.decodeUnsigned 32)).map Position.mk).andAlso
    (Record.required "character" (Json.decodeUnsigned 32))

/-- Reads a position. -/
def Position.decode (origin : Origin) : Decoder Position :=
  Position.record.decode "struct TextPosition" origin

/-- Writes a range. -/
def Range.toJson (r : Range) : Json :=
  .obj [("start", r.start.toJson), ("end", r.stop.toJson)]

/-- The fields of a range, whose ends are read with `d`. -/
def Range.record (d : Decoder Position) : Record Range :=
  ((Record.required "start" d).map Range.mk).andAlso (Record.required "end" d)

/-- Reads a range. -/
def Range.decode (origin : Origin) : Decoder Range :=
  (Range.record (Position.decode origin)).decode "struct TextRange" origin

/-! ## Mappers -/

/-- Writes a kind of statements. -/
def StatementKind.toJson (kind : StatementKind) : Json := .str kind.elementName

/-- Finds a kind by its name. -/
def StatementKind.decodeName (name : String) : Except DecodeError StatementKind :=
  match StatementKind.ofElementName? name with
  | some kind => .ok kind
  | none => .error (.unknownVariant name (StatementKind.all.map StatementKind.elementName))

/-- Reads a kind of statements: its name, or an object with the name as its only key and null as
its value. -/
def StatementKind.decode : Decoder StatementKind
  | .str name => StatementKind.decodeName name
  | .obj [(name, content)] => do
    let kind ← StatementKind.decodeName name
    match content with
    | .null => return kind
    | other => .error (.invalidType other "unit")
  | .obj fields => .error (.invalidValue (.obj fields) "map with a single key")
  | j => .error (.invalidType j "string or map")

/-- Writes a method. -/
def JavaMethod.toJson (m : JavaMethod) : Json :=
  .obj [("name", .str m.name), ("start_position", m.position.toJson)]

/-- The fields of a method. -/
def JavaMethod.record : Record JavaMethod :=
  ((Record.required "name" Json.decodeString).map JavaMethod.mk).andAlso
    (Record.required "start_position" (Position.decode .direct))

/-- Reads a method. -/
def JavaMethod.decode : Decoder JavaMethod := JavaMethod.record.decode "struct MapperMethod" .direct

/-- Writes a Java mapper. -/
def JavaMapper.toJson (m : JavaMapper) : Json :=
  .obj [("uri", .str m.uri), ("package", Json.ofOption (m.package.map .str)), ("name", .str m.name),
    ("methods", .arr (m.methods.map JavaMethod.toJson))]

/-- The fields of a Java mapper. -/
def JavaMapper.record : Record JavaMapper :=
  ((((Record.required "uri" Json.decodeString).map JavaMapper.mk).andAlso
    (Record.optional "package" Json.decodeString)).andAlso
    (Record.required "name" Json.decodeString)).andAlso
    (Record.required "methods" (Json.decodeList JavaMethod.decode))

/-- Reads a Java mapper. -/
def JavaMapper.decode : Decoder JavaMapper := JavaMapper.record.decode "struct ParsedJavaMapper" .direct

/-- Writes a statement. -/
def Statement.toJson (s : Statement) : Json :=
  .obj [("name", .str s.name), ("kind", s.kind.toJson), ("start_position", s.start.toJson),
    ("end_position", s.stop.toJson)]

/-- The fields of a statement. -/
def Statement.record : Record Statement :=
  ((((Record.required "name" Json.decodeString).map Statement.mk).andAlso
    (Record.required "kind" StatementKind.decode)).andAlso
    (Record.required "start_position" (Position.decode .direct))).andAlso
    (Record.required "end_position" (Position.decode .direct))

/-- Reads a statement. -/
def Statement.decode : Decoder Statement := Statement.record.decode "struct XmlStatement" .direct

/-- Writes an XML mapper. -/
def XmlMapper.toJson (m : XmlMapper) : Json :=
  .obj [("uri", .str m.uri), ("namespace", .str m.namespace_),
    ("methods", .arr (m.statements.map Statement.toJson)),
    ("available_insert_position", m.insertPosition.toJson)]

/-- The fields of an XML mapper. -/
def XmlMapper.record : Record XmlMapper :=
  ((((Record.required "uri" Json.decodeString).map XmlMapper.mk).andAlso
    (Record.required "namespace" Json.decodeString)).andAlso
    (Record.required "methods" (Json.decodeList Statement.decode))).andAlso
    (Record.required "available_insert_position" (Position.decode .direct))

/-- Reads an XML mapper. -/
def XmlMapper.decode : Decoder XmlMapper := XmlMapper.record.decode "struct XmlMapper" .direct

/-! ## Lenses -/

/-- Writes an action. -/
def Action.toJson : Action → Json
  | .navigate uri selection =>
    .obj [("kind", .str "navigate"), ("uri", .str uri), ("selection", selection.toJson)]
  | .generate uri position skeleton =>
    .obj [("kind", .str "generate"), ("uri", .str uri), ("position", position.toJson),
      ("skeleton", .str skeleton)]

/-- The fields of an action that leads to a statement. -/
def Action.navigateRecord : Record Action :=
  ((Record.required "uri" Json.decodeString).map Action.navigate).andAlso
    (Record.required "selection" (Range.decode .setAside))

/-- The fields of an action that makes a statement. -/
def Action.generateRecord : Record Action :=
  (((Record.required "uri" Json.decodeString).map Action.generate).andAlso
    (Record.required "position" (Position.decode .setAside))).andAlso
    (Record.required "skeleton" Json.decodeString)

/-- The kinds of actions: the name, the title in errors and the fields of each. -/
inductive Action.Kind where
  | navigate
  | generate

/-- The fields of an action of a kind. -/
def Action.Kind.record : Action.Kind → Record Action
  | .navigate => Action.navigateRecord
  | .generate => Action.generateRecord

/-- A kind of actions as errors name it. -/
def Action.Kind.title : Action.Kind → String
  | .navigate => "struct variant LensCommand::Navigate"
  | .generate => "struct variant LensCommand::Generate"

/-- Reads the kind of an action. -/
def Action.Kind.decode : Decoder Action.Kind
  | .str "navigate" => .ok .navigate
  | .str "generate" => .ok .generate
  | .str other => .error (.unknownVariant other ["navigate", "generate"])
  | j => .error (.invalidType j "variant identifier")

/-- Reads an action. In an object the field `kind` says which fields go with it; in an array the
first item does. -/
def Action.decode : Decoder Action
  | .obj fields =>
    match fields.lookup "kind" with
    | none => .error (.missingField "kind")
    | some tag => do
      let kind ← Action.Kind.decode tag
      kind.record.ofFields (fields.filter fun field => field.1 ≠ "kind")
  | .arr [] => .error (.missingField "kind")
  | .arr (tag :: items) => do
    let kind ← Action.Kind.decode tag
    kind.record.ofItems kind.title false .setAside items
  | j => .error (.invalidType j "internally tagged enum LensCommand")

/-- The arguments of the command that an editor runs for an action. -/
def Action.arguments : Action → List Json
  | .navigate uri selection => [.str uri, .obj [("selection", selection.toJson)]]
  | .generate uri position skeleton => [.str uri, position.toJson, .str skeleton]

/-- Writes a lens. -/
def Lens.toJson (l : Lens) : Json :=
  .obj [("range", l.range.toJson), ("command", l.action.toJson)]

/-- The fields of a lens. -/
def Lens.record : Record Lens :=
  ((Record.required "range" (Range.decode .direct)).map Lens.mk).andAlso
    (Record.required "command" Action.decode)

/-- Reads a lens. -/
def Lens.decode : Decoder Lens := Lens.record.decode "struct Hint" .direct

end StatementLens
