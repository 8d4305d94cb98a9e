import StatementLens.Java.Phrase

/-!
# Types, annotations and modifiers
-/

namespace StatementLens.Java.Syntax

open Rule

/-- Names with dots between them. -/
def path : Syntax := seq [anyWord, .many (seq [symbol .dot, anyWord])]

/-! ## Types -/

/-- A type with annotations in front of it. -/
def type (place : TypePlace) : Syntax :=
  seq [.many (.call .annotationUse), .call (.plainType place)]

/-- A type or an array type. -/
def plainType (place : TypePlace) : Syntax :=
  seq [.call (.simpleType place), optional (.call .dimensions)]

/-- The words that cannot be names behind a dot in a type. -/
def notNested : TypePlace → List Keyword
  | .only => []
  | .mixed => .class_ :: notSelected

/-- A basic type, or a name with type arguments and nested names. -/
def simpleType (place : TypePlace) : Syntax :=
  choice [
    oneOf Keyword.basicTypes,
    seq [nameExcept Keyword.basicTypes, optional (.call .typeArguments),
      .many (seq [symbol .dot, .many (.call .annotationUse), nameExcept (notNested place),
        optional (.call .typeArguments)])]]

/-- A type argument: a type or a wildcard, which may have a bound. -/
def typeArgument : Syntax :=
  let bound := seq [choice [keyword .extends_, keyword .super_], .call (.type .only)]
  seq [.many (.call .annotationUse),
    choice [seq [symbol .question, optional bound], .call (.plainType .only)]]

/-- Type arguments in angle brackets. -/
def typeArguments : Syntax := seq [symbol .less, commas typeArgument, symbol .greater]

/-- The brackets of an array type. -/
def dimensions : Syntax :=
  many1 (seq [.many (.call .annotationUse), symbol .leftBracket, symbol .rightBracket])

/-- A type parameter with its bounds. -/
def typeParameter : Syntax :=
  seq [.many (.call .annotationUse), anyWord,
    optional (seq [keyword .extends_, separated .and (.call (.type .only))])]

/-- Type parameters in angle brackets. -/
def typeParameters : Syntax := seq [symbol .less, separated .comma typeParameter, symbol .greater]

/-- Types with commas between them. -/
def typeList : Syntax := separated .comma (.call (.type .only))

/-! ## Annotations -/

/-- A name and a value among the arguments of an annotation. -/
def elementPair (excluded : List Keyword) : Syntax :=
  seq [nameExcept excluded, symbol .assign, .call .elementValue]

/-- Names and values as the arguments of an annotation. Only the first name stands where a single
value may stand too. -/
def elementPairs : Syntax :=
  seq [elementPair notOperands, .many (seq [symbol .comma, elementPair []])]

/-- The arguments of an annotation. -/
def annotationArguments : Syntax :=
  parens (choice [elementPairs, .call .elementValue, .empty])

/-- An annotation. -/
def annotationUse : Syntax :=
  .node .annotationUse
    (seq [symbol .at_, .node .annotationName (.call .path), optional annotationArguments])

/-- A value in an annotation: an annotation, several values, or an expression. -/
def elementValue : Syntax :=
  choice [
    braces (seq [commas (.call .elementValue), optional (symbol .comma)]),
    seq [.call .annotationUse, .notAhead (choice [anyWord, symbol .at_])],
    .call (.expression .free)]

/-! ## Modifiers -/

/-- The two tokens that begin the declaration of an annotation type. -/
def annotationTypeMark : Syntax := seq [symbol .at_, .one (.gluedKeyword .interface_)]

/-- An annotation among modifiers. -/
def annotationModifier : ModifierPlace → Syntax
  | .parameter => .call .annotationUse
  | _ => seq [.notAhead annotationTypeMark, .call .annotationUse]

/-- The word `sealed` is a modifier where something else to be declared follows it. -/
def sealedModifier (place : ModifierPlace) : Syntax :=
  let next := [anyWord, symbol .at_]
  seq [keyword .sealed_,
    .ahead (choice (if place = .member then next ++ [symbol .less] else next))]

/-- The modifier `non-sealed`, which is written as three tokens. -/
def nonSealedModifier : Syntax :=
  seq [.one (.spelled ['n', 'o', 'n']), .one (.gluedSymbol .minus), .one (.gluedKeyword .sealed_)]

/-- Checks that no modifier other than an annotation comes. -/
def notModifier : Syntax := seq [notAmong Keyword.modifiers, .notAhead nonSealedModifier]

/-- A modifier. The word `default` may also be a label. -/
def modifier (place : ModifierPlace) : Syntax :=
  choice [
    annotationModifier place,
    seq [keyword .default_, .notAhead (choice [symbol .colon, symbol .arrow])],
    seq [.notAhead (keyword .default_), oneOf Keyword.modifiers],
    sealedModifier place,
    nonSealedModifier]

/-- Modifiers, of which there is at least one. -/
def modifiers (place : ModifierPlace) : Syntax := .node .modifiers (many1 (modifier place))

end StatementLens.Java.Syntax
