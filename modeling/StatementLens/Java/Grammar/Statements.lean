import StatementLens.Java.Grammar.Expressions

/-!
# Statements

A source is a sequence of statements and methods; packages, imports and types are statements too.
-/

namespace StatementLens.Java.Syntax

open Rule

/-- A condition in parentheses. -/
def condition : Syntax := parens (.call (.expression .free))

/-- An expression that may be missing. -/
def optionalExpression : Syntax := optional (.call (.expression .free))

/-- Statements in braces. -/
def block : Syntax := braces (.many (.call (.statement .block)))

/-! ## Variables -/

/-- A name with dots whose type is tested, which is not taken for the type of a variable. -/
def typeTestHead : Syntax :=
  seq [nameExcept Keyword.basicTypes, .many (seq [symbol .dot, nameExcept (notNested .mixed)]),
    keyword .instanceof_]

/-- The name of a variable, which may be an array. -/
def declaratorId (excluded : List Keyword) : Syntax :=
  seq [nameExcept excluded, optional (.call .dimensions)]

/-- A variable and perhaps the value it starts with. -/
def declarator : Syntax :=
  seq [.call (.declaratorId []), optional (seq [symbol .assign, .call .variableInitializer])]

/-- Variables of one type. -/
def variableList (place : TypePlace) : Syntax :=
  seq [.call (.plainType place), separated .comma (.call .declarator), symbol .semicolon]

/-- What comes in front of the type of a variable where an expression may stand too: either
modifiers, or nothing, and then no expression may begin here. -/
def variableHead : Syntax :=
  choice [
    .call (.modifiers .parameter),
    seq [notAmong Keyword.expressionWords, .notAhead typeTestHead]]

/-! ## Loops and handlers -/

/-- The head of a loop over the elements of something. -/
def elementLoop : Syntax :=
  seq [variableHead, .call (.plainType .mixed), .call (.declaratorId []), symbol .colon,
    .call (.expression .free)]

/-- The head of a loop with a start, a condition and a step. -/
def countingLoop : Syntax :=
  let start := choice [
    seq [variableHead, variableList .mixed],
    seq [commas (.call (.expression .free)), symbol .semicolon]]
  seq [start, optionalExpression, symbol .semicolon, commas (.call (.expression .free))]

/-- What is closed at the end of a `try`. -/
def resource : Syntax :=
  let selection := choice [assignableSelection, finalSelection]
  choice [
    seq [choice [.call (.modifiers .parameter), notAmong Keyword.expressionWords],
      .call (.plainType .mixed), .call (.declaratorId []), symbol .assign,
      .call (.expression .free)],
    seq [notModifier,
      choice [
        superField,
        seq [choice [finalOperand, nameExcept notOperands],
          .many (seq [selection, .ahead selection]),
          .notAhead (symbol .leftBracket), assignableSelection],
        nameExcept notOperands]]]

/-- A handler of exceptions. -/
def handler : Syntax :=
  seq [keyword .catch_,
    parens (seq [optional (.call (.modifiers .parameter)), separated .or (.call (.plainType .only)),
      .call (.declaratorId [])]),
    .call .block]

/-- What is done at the end in any case. -/
def finallyPart : Syntax := seq [keyword .finally_, .call .block]

/-- The end of a `try`, where neither of its words is a name. -/
def tryEnd : Syntax := choice [finallyPart, notAmong [.catch_, .finally_]]

/-- A block whose exceptions are handled. -/
def tryStatement : Syntax :=
  let resources := parens
    (seq [separated .semicolon (.call .resource), optional (symbol .semicolon)])
  seq [keyword .try_,
    choice [
      seq [resources, .call .block, .many handler, tryEnd],
      seq [.call .block, choice [seq [many1 handler, tryEnd], finallyPart]]]]

/-! ## Simple statements -/

/-- The statements that begin with a word of their own. -/
def keywordStatement (place : StatementPlace) : Syntax :=
  let body : Syntax := .call (.statement (if place = .top then .block else place))
  choice [
    seq [keyword .if_, condition, body,
      choice [seq [keyword .else_, body], notAmong [.else_]]],
    seq [keyword .while_, condition, body],
    seq [keyword .for_, symbol .leftParen, choice [elementLoop, countingLoop], symbol .rightParen,
      body],
    seq [keyword .do_, body, keyword .while_, condition, symbol .semicolon],
    seq [keyword .assert_, .call (.expression .free),
      optional (seq [symbol .colon, .call (.expression .free)]), symbol .semicolon],
    seq [keyword .break_, optional anyWord, symbol .semicolon],
    seq [keyword .continue_, optional anyWord, symbol .semicolon],
    seq [keyword .return_, optionalExpression, symbol .semicolon],
    seq [keyword .throw_, .call (.expression .free), symbol .semicolon],
    seq [keyword .yield_, .call (.expression .free), symbol .semicolon],
    seq [keyword .synchronized_, condition, .call .block],
    tryStatement,
    seq [.call .switch_, optional (seq [many1 (.call (.infix_ .free)), symbol .semicolon])]]

/-! ## Packages, imports and modules -/

/-- The package of a source. -/
def package : Syntax :=
  .node .package (seq [.many (annotationModifier .statement), keyword .package_,
    .node .packageName (.call .path), symbol .semicolon])

/-- An import. -/
def importStatement : Syntax :=
  seq [keyword .import_, optional (keyword .static_), nameExcept [.static_],
    .many (seq [symbol .dot, anyWord]), optional (seq [symbol .dot, symbol .star]),
    symbol .semicolon]

/-- What a module says about others. -/
def directive : Syntax :=
  let paths := separated .comma (.call .path)
  let open_ := seq [.call .path, optional (seq [keyword .to_, paths]), symbol .semicolon]
  choice [
    seq [keyword .requires_, .many (oneOf [.transitive_, .static_]), .call .path,
      symbol .semicolon],
    seq [keyword .exports_, open_],
    seq [keyword .opens_, open_],
    seq [keyword .uses_, .call .path, symbol .semicolon],
    seq [keyword .provides_, .call .path, keyword .with_, paths, symbol .semicolon]]

/-- A module. -/
def module_ : Syntax :=
  seq [.many (annotationModifier .statement), optional (keyword .open_), keyword .module_,
    .call .path,
    braces (.many directive)]

/-- The beginning of a module, which is not taken for the type of a variable. -/
def moduleHead : Syntax :=
  choice [seq [keyword .module_, anyWord], seq [keyword .open_, keyword .module_]]

/-! ## Statements -/

/-- Variables or, outside of all types, a method. -/
def variablesOrMethod (place : StatementPlace) (types : TypePlace) : Syntax :=
  if place = .top then choice [.call (.method .classBody), variableList types]
  else variableList types

/-- The beginnings of other statements that are not taken for the type of a variable. -/
def notVariables : Syntax :=
  seq [notAmong Keyword.statementWords, .notAhead typeTestHead,
    .notAhead (seq [keyword .yield_, oneOf notOperands])]

/-- A declaration with or without modifiers. One annotation in front of the word for packages
belongs to a package. -/
def declarationStatement (place : StatementPlace) : Syntax :=
  .node .declaration (choice [
    seq [.notAhead (seq [.call .annotationUse, keyword .package_]), .call (.modifiers .statement),
      choice [
        .call (.typeDeclaration .classBody),
        seq [notAmong Keyword.memberWords, .notAhead moduleHead, variablesOrMethod place .only]]],
    .call (.typeDeclaration .classBody),
    seq [notVariables, .notAhead moduleHead, variablesOrMethod place .mixed]])

/-- The words that cannot begin an expression used as a statement. -/
def notExpressions : List Keyword :=
  Keyword.statementWords.filter fun k => !Keyword.expressionWords.contains k

/-- A statement. -/
def statement (place : StatementPlace) : Syntax :=
  let inner : StatementPlace := if place = .top then .block else place
  seq [
    if place = .group then notAmong [.case_] else .empty,
    choice [
      .node .nested (choice [
        symbol .semicolon, .call .block, keywordStatement place, importStatement]),
      declarationStatement place,
      package,
      .node .nested (choice [
        module_,
        seq [nameExcept (Keyword.statementWords ++ Keyword.basicTypes ++ looseWords), symbol .colon,
          .call (.statement inner)],
        seq [notAmong notExpressions, .notAhead nonSealedModifier, .call (.expression .free),
          symbol .semicolon]])]]

/-- A source. -/
def program : Syntax := .many (.call (.statement .top))

end StatementLens.Java.Syntax
