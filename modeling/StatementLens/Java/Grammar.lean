import StatementLens.Java.Grammar.Declarations

/-!
# The grammar of Java

The rule of each phrase, and the reading of a whole source.
-/

namespace StatementLens.Java

namespace Syntax

/-- The rule of each phrase. -/
def rules : Phrase → Syntax
  | .program => program
  | .path => path
  | .type place => type place
  | .plainType place => plainType place
  | .simpleType place => simpleType place
  | .typeArguments => typeArguments
  | .dimensions => dimensions
  | .typeParameters => typeParameters
  | .annotationUse => annotationUse
  | .elementValue => elementValue
  | .modifiers place => modifiers place
  | .expression place => expression place
  | .prefixed place => prefixed place
  | .infix_ place => infixPart place
  | .function => function
  | .chain => chain
  | .assignableTail => assignableTail
  | .finalTail => finalTail
  | .argumentList => argumentList
  | .creation => creation
  | .switch_ => switch
  | .label => label
  | .recordPattern => recordPattern
  | .variableInitializer => variableInitializer
  | .statement place => statement place
  | .block => block
  | .resource => resource
  | .declaratorId excluded => declaratorId excluded
  | .declarator => declarator
  | .formalParameters => formalParameters
  | .typeDeclaration place => typeDeclaration place
  | .member place => member place
  | .method place => method place
  | .classBody => bodyOf .classBody

end Syntax

/-- Rules nest at most this deep per token. -/
def depthPerToken : Nat := 200

/-- Reads a source: the trees of its statements, if it is well formed. -/
def parse (text : List Char) : Option (List (Tree Part)) := do
  let ts ← tokens text
  Rule.parse Syntax.rules (depthPerToken * (ts.length + 2)) .program ts

end StatementLens.Java
