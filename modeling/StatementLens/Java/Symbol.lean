/-!
# Symbols

Brackets, separators and operators. Where several symbols begin at one place, the longest is meant.
Operators that begin with `>` are put together from single ones, since two lists of type arguments
may end next to each other.
-/

namespace StatementLens.Java

/-- A bracket, separator or operator. -/
inductive Symbol where
  | ellipsis
  | dot
  | comma
  | semicolon
  | colons
  | colon
  | question
  | at_
  | leftParen
  | rightParen
  | leftBracket
  | rightBracket
  | leftBrace
  | rightBrace
  | equal
  | assign
  | notEqual
  | bang
  | tilde
  | shiftLeftAssign
  | shiftLeft
  | lessEqual
  | less
  | greater
  | arrow
  | decrement
  | minusAssign
  | minus
  | increment
  | plusAssign
  | plus
  | starAssign
  | star
  | slashAssign
  | slash
  | percentAssign
  | percent
  | andAnd
  | andAssign
  | and
  | orOr
  | orAssign
  | or
  | caretAssign
  | caret
  deriving DecidableEq, Repr

namespace Symbol

/-- The symbols and their spellings; a longer one comes before those it begins with. -/
def spellings : List (List Char × Symbol) := [
  (['.', '.', '.'], .ellipsis),
  (['.'], .dot),
  ([','], .comma),
  ([';'], .semicolon),
  ([':', ':'], .colons),
  ([':'], .colon),
  (['?'], .question),
  (['@'], .at_),
  (['('], .leftParen),
  ([')'], .rightParen),
  (['['], .leftBracket),
  ([']'], .rightBracket),
  (['\x7b'], .leftBrace),
  (['\x7d'], .rightBrace),
  (['=', '='], .equal),
  (['='], .assign),
  (['!', '='], .notEqual),
  (['!'], .bang),
  (['~'], .tilde),
  (['<', '<', '='], .shiftLeftAssign),
  (['<', '<'], .shiftLeft),
  (['<', '='], .lessEqual),
  (['<'], .less),
  (['>'], .greater),
  (['-', '>'], .arrow),
  (['-', '-'], .decrement),
  (['-', '='], .minusAssign),
  (['-'], .minus),
  (['+', '+'], .increment),
  (['+', '='], .plusAssign),
  (['+'], .plus),
  (['*', '='], .starAssign),
  (['*'], .star),
  (['/', '='], .slashAssign),
  (['/'], .slash),
  (['%', '='], .percentAssign),
  (['%'], .percent),
  (['&', '&'], .andAnd),
  (['&', '='], .andAssign),
  (['&'], .and),
  (['|', '|'], .orOr),
  (['|', '='], .orAssign),
  (['|'], .or),
  (['^', '='], .caretAssign),
  (['^'], .caret)]

/-- The symbol at the front of a text and the number of its characters. -/
def first? (cs : List Char) : Option (Symbol × Nat) :=
  (spellings.find? fun (spelling, _) => spelling.isPrefixOf cs).map fun (spelling, s) =>
    (s, spelling.length)

end Symbol

end StatementLens.Java
