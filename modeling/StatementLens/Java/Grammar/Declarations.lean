import StatementLens.Java.Grammar.Statements

/-!
# Declarations of types and their members
-/

namespace StatementLens.Java.Syntax

open Rule

/-! ## Parameters -/

/-- The receiver of a method written as a parameter. -/
def receiver : Syntax :=
  seq [.many (.call .annotationUse), notAmong Keyword.modifiers, .call (.plainType .only),
    .many (seq [nameExcept [.this_], symbol .dot]), keyword .this_]

/-- What follows the modifiers of a parameter, which may stand for several arguments. -/
def parameterRest (excluded : List Keyword) : Syntax :=
  seq [.call (.plainType .only),
    choice [
      seq [symbol .ellipsis, .many (.call .annotationUse), .call .declarator],
      .call (.declaratorId excluded)]]

/-- A parameter where no receiver can stand. -/
def parameter : Syntax := seq [optional (.call (.modifiers .parameter)), parameterRest []]

/-- The first parameter. -/
def firstParameter : Syntax :=
  let modifiers : Syntax := .call (.modifiers .parameter)
  choice [
    seq [modifiers, parameterRest []],
    seq [.notAhead modifiers, parameterRest [.this_]]]

/-- Parameters in parentheses. -/
def formalParameters : Syntax :=
  parens (choice [
    seq [receiver, optional (seq [symbol .comma, commas parameter])],
    optional (seq [firstParameter, .many (seq [symbol .comma, parameter])])])

/-- The exceptions that a method names. -/
def throwsPart : Syntax := seq [keyword .throws_, typeList]

/-! ## Types -/

/-- The interfaces that a class implements. -/
def implementsPart : Syntax := seq [keyword .implements_, typeList]

/-- The types that may extend a type. -/
def permitsPart : Syntax := seq [keyword .permits_, typeList]

/-- Members in braces. -/
def bodyOf (place : MemberPlace) : Syntax := braces (.many (.call (.member place)))

/-- A class. -/
def classDeclaration : Syntax :=
  seq [keyword .class_, anyWord, optional (.call .typeParameters),
    optional (seq [keyword .extends_, .call (.type .only)]), optional implementsPart,
    optional permitsPart, .call .classBody]

/-- The interfaces that an interface extends. -/
def superTypes : Syntax :=
  .node .superTypes
    (seq [keyword .extends_, separated .comma (.node .superType (.call (.type .only)))])

/-- An interface. -/
def interfaceDeclaration : Syntax :=
  .node .interface_ (seq [keyword .interface_, .node .interfaceName anyWord,
    optional (.call .typeParameters), optional superTypes, optional permitsPart,
    .node .members (bodyOf .interfaceBody)])

/-- A constant of an enumeration. -/
def enumConstant : Syntax :=
  seq [optional (.call (.modifiers .parameter)), nameExcept (Keyword.modifiers ++ [.sealed_]),
    optional (.call .argumentList), optional (.call .classBody)]

/-- An enumeration. -/
def enumDeclaration : Syntax :=
  seq [keyword .enum_, anyWord, optional implementsPart,
    braces (seq [commas enumConstant, optional (symbol .comma),
      optional (seq [symbol .semicolon, .many (.call (.member .classBody))])])]

/-- The beginning of a record, which is not taken for the type of a variable. -/
def recordHead : Syntax :=
  seq [keyword .record_, nameExcept (looseWords ++ [.underscore, .instanceof_])]

/-- A record. -/
def recordDeclaration : Syntax :=
  seq [recordHead, optional (.call .typeParameters), .call .formalParameters,
    optional implementsPart, .call .classBody]

/-- An annotation type. -/
def annotationTypeDeclaration : Syntax :=
  seq [annotationTypeMark, anyWord, bodyOf .annotationBody]

/-- A type declared at some place; annotation types hold no records. -/
def typeDeclaration (place : MemberPlace) : Syntax :=
  choice [
    classDeclaration,
    interfaceDeclaration,
    enumDeclaration,
    annotationTypeDeclaration,
    if place = .annotationBody then .notAhead .empty else recordDeclaration]

/-! ## Members -/

/-- What follows the type of a method. -/
def methodTail (excluded : List Keyword) : Syntax :=
  seq [.node .methodName (nameExcept excluded), .call .formalParameters,
    optional (.call .dimensions), optional throwsPart,
    choice [.node .methodBody (.call .block), symbol .semicolon]]

/-- A method, or an element of an annotation type. Where there are no type parameters, an underscore
is the name of a variable. -/
def method (place : MemberPlace) : Syntax :=
  let element := seq [.call (.plainType .only), nameExcept [.underscore], parens .empty,
    optional (.call .dimensions), optional (seq [keyword .default_, .call .elementValue]),
    symbol .semicolon]
  let generic := seq [
    .call .typeParameters, .many (.call .annotationUse), .call (.plainType .only), methodTail []]
  let ordinary := seq [.call (.plainType .only), methodTail [.underscore]]
  if place = .annotationBody then element else .node .method (choice [generic, ordinary])

/-- A call of another constructor at the start of a constructor. -/
def constructorCall : Syntax :=
  let arguments := seq [.call .argumentList, symbol .semicolon]
  choice [
    seq [optional (.call .typeArguments), choice [keyword .this_, keyword .super_], arguments],
    seq [choice [finalOperand, nameExcept notOperands],
      .many (choice [assignableSelection, finalSelection]), symbol .dot,
      optional (.call .typeArguments), keyword .super_, arguments]]

/-- A constructor. -/
def constructor : Syntax :=
  seq [
    choice [
      seq [.call .typeParameters, nameExcept (Keyword.basicTypes ++ looseWords)],
      nameExcept (Keyword.memberWords ++ Keyword.basicTypes ++ looseWords)],
    .call .formalParameters, optional throwsPart,
    braces (seq [optional constructorCall, .many (.call (.statement .block))])]

/-- A constructor of a record without parameters. -/
def compactConstructor : Syntax :=
  seq [nameExcept (Keyword.memberWords ++ Keyword.basicTypes ++ looseWords), .call .block]

/-- What follows the modifiers of a member. -/
def memberRest (place : MemberPlace) : Syntax :=
  let onlyClasses (s : Syntax) : Syntax := if place = .classBody then s else .notAhead .empty
  choice [
    .call (.typeDeclaration place),
    seq [notAmong Keyword.memberWords,
      if place = .annotationBody then .empty else .notAhead recordHead,
      choice [
        onlyClasses compactConstructor,
        onlyClasses constructor,
        .call (.method place),
        variableList .only]]]

/-- A member of a type. -/
def member (place : MemberPlace) : Syntax :=
  let initializers := choice [.call .block, seq [keyword .static_, .call .block]]
  choice [
    symbol .semicolon,
    if place = .classBody then initializers else .notAhead .empty,
    .node .declaration (seq [optional (.call (.modifiers .member)), memberRest place])]

end StatementLens.Java.Syntax
