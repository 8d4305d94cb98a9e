import StatementLens.Java.Grammar.Types

/-!
# Expressions

The grammar does not say which operator binds tighter, since it makes no difference to which sources
are well formed. An expression is a row of operands with operators between and around them.
-/

namespace StatementLens.Java.Syntax

open Rule

/-! ## Operators -/

/-- What must not follow an operator that ends in `>`, since it would make a longer operator. -/
def noLonger : Syntax :=
  seq ([.greater, .assign, .equal].map fun s => .notAhead (.one (.gluedSymbol s)))

/-- A further `>` of an operator. -/
def furtherGreater : Syntax := .one (.gluedSymbol .greater)

/-- The equals sign that ends an operator. -/
def finalAssign : Syntax := .one (.gluedSymbol .assign)

/-- The operators between two operands that are single symbols. -/
def binarySymbols : List Symbol :=
  [.less, .lessEqual, .equal, .notEqual, .andAnd, .orOr, .plus, .minus, .star, .slash, .and, .or,
    .caret, .percent, .shiftLeft]

/-- An operator between two operands. -/
def binaryOperator : Syntax :=
  choice (binarySymbols.map symbol ++ [
    seq [symbol .greater, furtherGreater, furtherGreater, noLonger],
    seq [symbol .greater, furtherGreater, noLonger],
    seq [symbol .greater, finalAssign],
    seq [symbol .greater, noLonger]])

/-- The operators that assign and are single symbols. -/
def assignSymbols : List Symbol :=
  [.assign, .plusAssign, .minusAssign, .starAssign, .slashAssign, .andAssign, .orAssign,
    .caretAssign,
    .percentAssign, .shiftLeftAssign]

/-- An operator that assigns. -/
def assignOperator : Syntax :=
  choice (assignSymbols.map symbol ++ [
    seq [symbol .greater, furtherGreater, furtherGreater, finalAssign],
    seq [symbol .greater, furtherGreater, finalAssign]])

/-- An operator in front of an operand. -/
def prefixOperator : Syntax :=
  choice ([.plus, .minus, .bang, .tilde, .increment, .decrement].map symbol)

/-! ## Operands -/

/-- A text, which may have expressions in it. -/
def textLiteral : Syntax :=
  choice [
    .one .text,
    seq [.one .textOpen, .call (.expression .free),
      .many (seq [.one .textMiddle, .call (.expression .free)]), .one .textClose]]

/-- What follows the double colon of a reference to a method. -/
def methodReference : Syntax :=
  seq [symbol .colons, optional (.call .typeArguments),
    choice [keyword .new_, nameExcept [.new_]]]

/-- A type used as an operand: its class, or a method of it. -/
def typeOperand : Syntax :=
  seq [notAmong Keyword.expressionWords,
    choice [
      seq [.call (.plainType .mixed), choice [seq [symbol .dot, keyword .class_], methodReference]],
      seq [.ahead (symbol .at_), .call (.type .mixed), methodReference]]]

/-- Arguments in parentheses. -/
def argumentList : Syntax := parens (commas (.call (.expression .free)))

/-- What follows the word `super` if it is a field. -/
def superField : Syntax :=
  seq [keyword .super_, optional (seq [symbol .dot, keyword .super_]), symbol .dot,
    choice [nameExcept notSelected, keyword .this_], .notAhead (symbol .leftParen)]

/-- The name of a called method behind a dot, with type arguments in front of it. -/
def calledName : Syntax :=
  choice [seq [.call .typeArguments, nameExcept [.super_]], nameExcept notSelected]

/-- What follows the word `super` if it is a method. -/
def superMethod : Syntax :=
  seq [keyword .super_,
    choice [
      methodReference,
      seq [symbol .dot, optional (seq [keyword .super_, symbol .dot]), calledName,
        .call .argumentList]]]

/-- Operands that nothing can be assigned to. -/
def finalOperand : Syntax :=
  choice [
    typeOperand,
    .one .number,
    .one .character,
    textLiteral,
    oneOf [.true_, .false_, .null_, .this_],
    seq [nameExcept notOperands, .call .argumentList],
    superMethod,
    seq [symbol .leftParen, notModifier, .call (.expression .free), symbol .rightParen],
    .call .creation]

/-- Operands that something can be assigned to. -/
def assignableOperand : Syntax := choice [superField, nameExcept notOperands]

/-- An operand and what is selected from it. -/
def chain : Syntax :=
  choice [
    seq [finalOperand, .call .finalTail],
    seq [assignableOperand, .call .assignableTail]]

/-- A field or an element selected from an operand. -/
def assignableSelection : Syntax :=
  choice [
    seq [optional (seq [symbol .dot, keyword .super_]), symbol .dot,
      choice [nameExcept notSelected, keyword .this_], .notAhead (symbol .leftParen)],
    seq [symbol .leftBracket, .call (.expression .free), symbol .rightBracket]]

/-- A call, a new object, a text or a method selected from an operand. -/
def finalSelection : Syntax :=
  choice [
    seq [symbol .dot, optional (seq [keyword .super_, symbol .dot]), calledName,
      .call .argumentList],
    seq [symbol .dot, .ahead (keyword .new_), .call .creation],
    seq [symbol .dot, textLiteral],
    methodReference]

/-- An operand with what is selected from it, to which nothing is assigned. -/
def selected : Syntax :=
  seq [choice [finalOperand, assignableOperand],
    .many (choice [assignableSelection, finalSelection])]

/-- What follows an operand that something can be assigned to. -/
def assignableTail : Syntax :=
  choice [
    seq [assignOperator, .call (.expression .free)],
    seq [assignableSelection, .call .assignableTail],
    seq [finalSelection, .call .finalTail],
    .empty]

/-- What follows an operand that nothing can be assigned to. -/
def finalTail : Syntax :=
  choice [
    seq [assignableSelection, .call .assignableTail],
    seq [finalSelection, .call .finalTail],
    .empty]

/-! ## Rows of operands -/

/-- An expression. -/
def expression (place : ExpressionPlace) : Syntax :=
  seq [.call (.prefixed place), .many (.call (.infix_ place))]

/-- Parentheses around a type in front of an operand. -/
def castHead (types : Syntax) : Syntax :=
  seq [symbol .leftParen, notAmong (Keyword.modifiers ++ Keyword.expressionWords), types,
    symbol .rightParen, notAmong [.instanceof_]]

/-- A cast: what comes after a single type may have operators in front of it, and what comes after
several types may not. -/
def cast (place : ExpressionPlace) : Syntax :=
  let type : Syntax := .call (.type .mixed)
  choice [
    seq [castHead type, .call (.prefixed place)],
    seq [castHead (seq [type, many1 (seq [symbol .and, type])]),
      choice [.call .function, selected]]]

/-- An operand with operators and casts in front of it. -/
def prefixed (place : ExpressionPlace) : Syntax :=
  choice [
    seq [prefixOperator, .call (.prefixed place)],
    if place = .free then .call .function else .notAhead .empty,
    cast place,
    .call .switch_,
    .call .chain]

/-- What follows the word `instanceof`: a pattern, or a type and perhaps a name. -/
def typeTest (place : ExpressionPlace) : Syntax :=
  let name := nameExcept (if place = .label then [.instanceof_, .when_] else [.instanceof_])
  seq [keyword .instanceof_, optional (keyword .final_),
    choice [.call .recordPattern, seq [.call (.type .only), optional name]]]

/-- What may follow an operand. -/
def infixPart (place : ExpressionPlace) : Syntax :=
  choice [
    symbol .increment,
    symbol .decrement,
    seq [binaryOperator, .call (.prefixed place)],
    seq [symbol .question, .call (.expression .free), symbol .colon, .call (.prefixed place)],
    typeTest place]

/-- A function: its parameters, an arrow, and a block or an expression. -/
def function : Syntax :=
  let inferred := parens (seq [nameExcept (Keyword.modifiers ++ notOperands),
    .many (seq [symbol .comma, anyWord])])
  let parameters := choice [
    nameExcept notOperands,
    seq [.notAhead (seq [symbol .leftParen, oneOf Keyword.expressionWords]),
      .call .formalParameters],
    inferred]
  seq [parameters, symbol .arrow, choice [.call .block, .call (.expression .free)]]

/-! ## New objects -/

/-- An array initializer. -/
def arrayInitializer : Syntax :=
  braces (seq [commas (.call .variableInitializer), optional (symbol .comma)])

/-- The value that a variable starts with. -/
def variableInitializer : Syntax := choice [arrayInitializer, .call (.expression .free)]

/-- The size of one dimension of a new array. -/
def dimensionSize : Syntax :=
  seq [.many (.call .annotationUse), symbol .leftBracket, .call (.expression .free),
    symbol .rightBracket]

/-- Arguments of a new object, and perhaps a class body. -/
def objectTail : Syntax := seq [.call .argumentList, optional (.call .classBody)]

/-- A new object or array. -/
def creation : Syntax :=
  let annotations : Syntax := .many (.call .annotationUse)
  seq [keyword .new_,
    choice [
      seq [annotations, .call (.simpleType .only),
        choice [
          seq [many1 dimensionSize, optional (.call .dimensions)],
          seq [.call .dimensions, arrayInitializer],
          objectTail]],
      seq [annotations, .call .typeArguments, annotations, .call (.simpleType .only), objectTail]]]

/-! ## Switches -/

/-- A pattern that takes a record apart. -/
def recordPattern : Syntax :=
  let component := choice [
    .call .recordPattern,
    keyword .underscore,
    seq [.call (.plainType .only), anyWord]]
  seq [
    choice [
      seq [nameExcept Keyword.basicTypes, .ahead (symbol .leftParen)],
      seq [.notAhead (seq [.call .path, symbol .leftParen]), .call (.simpleType .mixed)]],
    parens (commas component)]

/-- The labels of one case: a pattern or expressions, and perhaps a condition. -/
def label : Syntax :=
  let behind := choice [symbol .arrow, symbol .colon, keyword .when_]
  let pattern := seq [notAmong Keyword.expressionWords,
    choice [.call .recordPattern, seq [.call (.plainType .mixed), nameExcept [.when_]]]]
  choice [
    keyword .default_,
    seq [keyword .case_,
      choice [
        seq [pattern, .ahead behind],
        separated .comma (.call (.expression .label))],
      optional (seq [keyword .when_, .call (.expression .label)])]]

/-- What follows the arrow of a case. -/
def ruleBody : Syntax :=
  choice [
    .call .block,
    seq [keyword .throw_, .call (.expression .free), symbol .semicolon],
    seq [notAmong [.throw_], .call (.expression .free), symbol .semicolon]]

/-- A choice between cases. Either all cases have arrows or all have colons. -/
def switch : Syntax :=
  let arrows := many1 (seq [.call .label, symbol .arrow, ruleBody])
  let labels := many1 (seq [.call .label, symbol .colon])
  let groups := .many (seq [labels, .many (.call (.statement .group))])
  seq [keyword .switch_, parens (.call (.expression .free)), symbol .leftBrace,
    choice [
      seq [arrows, symbol .rightBrace],
      seq [groups, symbol .rightBrace]]]

end StatementLens.Java.Syntax
