import StatementLens.Java.Rule

/-!
# Phrases of Java

The names of the rules of the grammar and the labels of the parts that are looked at afterwards.
-/

namespace StatementLens.Java

/-- Where a statement stands. -/
inductive StatementPlace where
  /-- Outside of all types; methods may stand there too. -/
  | top
  | block
  /-- Behind the labels of a `switch`. -/
  | group
  deriving DecidableEq, Repr

/-- What a member is a member of. -/
inductive MemberPlace where
  | classBody
  | interfaceBody
  | annotationBody
  deriving DecidableEq, Repr

/-- What modifiers stand in front of. -/
inductive ModifierPlace where
  | member
  | statement
  /-- Parameters, resources and the like, which declare no types. -/
  | parameter
  deriving DecidableEq, Repr

/-- Whether an expression is a label of a `switch`, where an arrow does not make a function. -/
inductive ExpressionPlace where
  | free
  | label
  deriving DecidableEq, Repr

/-- Whether a type stands where an expression may stand too. -/
inductive TypePlace where
  | only
  | mixed
  deriving DecidableEq, Repr

/-- The names of the rules. -/
inductive Phrase where
  | program
  | path
  -- types
  | type (place : TypePlace)
  | plainType (place : TypePlace)
  | simpleType (place : TypePlace)
  | typeArguments
  | dimensions
  | typeParameters
  -- annotations and modifiers
  | annotationUse
  | elementValue
  | modifiers (place : ModifierPlace)
  -- expressions
  | expression (place : ExpressionPlace)
  | prefixed (place : ExpressionPlace)
  | infix_ (place : ExpressionPlace)
  | function
  | chain
  | assignableTail
  | finalTail
  | argumentList
  | creation
  | switch_
  | label
  | recordPattern
  | variableInitializer
  -- statements
  | statement (place : StatementPlace)
  | block
  | resource
  -- declarations
  | declaratorId (excluded : List Keyword)
  | declarator
  | formalParameters
  | typeDeclaration (place : MemberPlace)
  | member (place : MemberPlace)
  | method (place : MemberPlace)
  | classBody

/-- The labels of the parts that are looked at. -/
inductive Part where
  | package
  | packageName
  /-- Modifiers with what they stand in front of. -/
  | declaration
  /-- A statement that declares nothing itself, though there may be declarations inside of it. -/
  | nested
  | modifiers
  | annotationUse
  | annotationName
  | interface_
  | interfaceName
  | superTypes
  | superType
  | members
  | method
  | methodName
  | methodBody
  deriving DecidableEq, Repr

/-- A rule of the grammar. -/
abbrev Syntax := Rule Phrase Part

namespace Syntax

/-- Words that have a meaning only in a few places and are names elsewhere. -/
def looseWords : List Keyword := [.open_, .module_, .record_, .with_, .sealed_, .yield_]

/-- The words that cannot be names where an expression begins. -/
def notOperands : List Keyword := Keyword.basicTypes ++ Keyword.expressionWords

/-- The words that cannot be names behind a dot in an expression. -/
def notSelected : List Keyword := [.new_, .super_, .this_]

/-- Reads one of some words. -/
def oneOf (ks : List Keyword) : Syntax := .one (.wordAmong ks)

/-- Checks that none of some words comes. -/
def notAmong (ks : List Keyword) : Syntax := .notAhead (oneOf ks)

/-- Reads any word. -/
def anyWord : Syntax := .nameExcept []

end Syntax

end StatementLens.Java
