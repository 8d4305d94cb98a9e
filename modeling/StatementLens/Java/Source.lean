import StatementLens.Java.Grammar
import StatementLens.Text.Blank

/-!
# Sources

What is looked at in a Java source: its package, and its first interface outside of all other types
with its methods.
-/

namespace StatementLens.Java

/-! ## Trees -/

mutual

/-- The tokens of a tree. -/
def Tree.tokens {κ : Type} : Tree κ → List Token
  | .leaf token => [token]
  | .node _ children => forestTokens children

/-- The tokens of trees. -/
def forestTokens {κ : Type} : List (Tree κ) → List Token
  | [] => []
  | t :: rest => t.tokens ++ forestTokens rest

end

mutual

/-- The first node with a label in a tree: its children. -/
def Tree.find? {κ : Type} [DecidableEq κ] (label : κ) : Tree κ → Option (List (Tree κ))
  | .leaf _ => none
  | .node found children => if found = label then some children else forestFind? label children

/-- The first node with a label in trees: its children. -/
def forestFind? {κ : Type} [DecidableEq κ] (label : κ) : List (Tree κ) → Option (List (Tree κ))
  | [] => none
  | t :: rest => (t.find? label).or (forestFind? label rest)

end

/-- The children of a tree with a label. -/
def Tree.part? {κ : Type} [DecidableEq κ] (label : κ) : Tree κ → Option (List (Tree κ))
  | .leaf _ => none
  | .node found children => if found = label then some children else none

/-- The source text of trees, with the gaps between their tokens. -/
def textOf {κ : Type} (text : List Char) (trees : List (Tree κ)) : List Char :=
  let ts := forestTokens trees
  match ts.head?, ts.getLast? with
  | some first, some last => Text.slice first.start last.stop text
  | _, _ => []

/-! ## Names -/

/-- The last part of a name with dots, without type arguments and blank space around it. -/
def simpleName (name : List Char) : List Char :=
  let written := Text.trim (name.takeWhile (· ≠ '<'))
  Text.trim ((Text.splitOn (· = '.') written).getLastD [])

/-! ## Sources -/

/-- A method of an interface. -/
structure Method where
  name : List Char
  /-- The offset of its name. -/
  start : Nat
  /-- The names of the annotations among its modifiers. -/
  annotations : List (List Char)
  hasBody : Bool
  deriving DecidableEq, Repr

/-- An interface. -/
structure Interface where
  name : List Char
  /-- The names of the annotations among its modifiers. -/
  annotations : List (List Char)
  /-- What stands in the list of the interfaces that it extends, including comments. -/
  extended : List (List Char)
  methods : List Method
  deriving DecidableEq, Repr

/-- What is looked at in a source. -/
structure Source where
  package : Option (List Char)
  interface? : Option Interface
  deriving DecidableEq, Repr

namespace Source

/-- The names of the annotations among the modifiers of a declaration, given its parts. -/
def annotationNames (text : List Char) (parts : List (Tree Part)) : List (List Char) :=
  let modifiers := (parts.findSome? (Tree.part? .modifiers)).getD []
  (modifiers.filterMap (Tree.part? .annotationUse)).filterMap fun annotated =>
    (annotated.findSome? (Tree.part? .annotationName)).map (textOf text)

/-- The word that is all of some trees, and its offset. -/
def wordOf (trees : List (Tree Part)) : List Char × Nat :=
  match trees with
  | [.leaf token] => (token.chars, token.start)
  | _ => ([], 0)

/-- The method that a declaration declares, given its parts. -/
def method? (text : List Char) (parts : List (Tree Part)) : Option Method := do
  let method ← parts.findSome? (Tree.part? .method)
  let (name, start) := wordOf (← method.findSome? (Tree.part? .methodName))
  let body := method.findSome? (Tree.part? .methodBody)
  return ⟨name, start, annotationNames text parts, body.isSome⟩

/-- What stands in a list of types from its second tree on. Comments inside of the list count. -/
def laterEntries (text : List Char) (trees : List (Tree Part)) : List (List Char) :=
  trees.flatMap fun t =>
    let before := ((t.tokens.head?).map Token.comments).getD []
    match t.part? .superType with
    | some children => before ++ [textOf text children]
    | none => before

/-- What stands in the list of the interfaces that an interface extends. -/
def extendedEntries (text : List Char) (trees : List (Tree Part)) : List (List Char) :=
  match trees.dropWhile fun t => (t.part? .superType).isNone with
  | [] => []
  | first :: rest => textOf text [first] :: laterEntries text rest

/-- The interface that a declaration declares, given its parts. -/
def declaredInterface? (text : List Char) (parts : List (Tree Part)) : Option Interface := do
  let declared ← parts.findSome? (Tree.part? .interface_)
  let (name, _) := wordOf (← declared.findSome? (Tree.part? .interfaceName))
  let extended := (declared.findSome? (Tree.part? .superTypes)).getD []
  let members := (declared.findSome? (Tree.part? .members)).getD []
  return {
    name
    annotations := annotationNames text parts
    extended := extendedEntries text extended
    methods := (members.filterMap (Tree.part? .declaration)).filterMap (method? text) }

/-- Looks at a source that has been read. The first package counts, wherever it stands, but only
interfaces outside of all types and blocks. -/
def ofTrees (text : List Char) (trees : List (Tree Part)) : Source where
  package := ((forestFind? .package trees).bind (List.findSome? (Tree.part? .packageName))).map
    (textOf text)
  interface? := (trees.filterMap (Tree.part? .declaration)).findSome? (declaredInterface? text)

/-- Looks at a source, if it is well formed. -/
def read? (text : List Char) : Option Source := (parse text).map (ofTrees text)

end Source

end StatementLens.Java
