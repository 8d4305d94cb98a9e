/-!
# Numbers

The spellings of numbers. Digits may be set apart by single underscores. Of all spellings that a
text begins with, the longest is meant.
-/

namespace StatementLens.Java

/-- What is left of a text after a piece, if the text begins with the piece. -/
abbrev Piece := List Char → Option (List Char)

namespace Piece

/-- One piece after the other. -/
def andThen (a b : Piece) : Piece := fun cs => (a cs).bind b

/-- A piece that may be missing. -/
def optional (a : Piece) : Piece := fun cs => some ((a cs).getD cs)

/-- A character that `p` accepts. -/
def one (p : Char → Bool) : Piece
  | c :: rest => if p c then some rest else none
  | [] => none

/-- One of some characters. -/
def oneOf (chars : List Char) : Piece := one fun c => chars.contains c

/-- What is left after digits that `p` accepts and underscores between them; `expected` says that a
digit has to come. -/
def afterDigits (p : Char → Bool) : Bool → List Char → Option (List Char)
  | expected, [] => if expected then none else some []
  | expected, c :: rest =>
    if p c then afterDigits p false rest
    else if expected then none
    else if c = '_' && (rest.head?.map p).getD false then afterDigits p true rest
    else some (c :: rest)

/-- Digits that `p` accepts, with single underscores between them. -/
def digits (p : Char → Bool) : Piece := afterDigits p true

/-- Whether a character is a hexadecimal digit. -/
def isHexDigit (c : Char) : Bool := c.isDigit || ('a' ≤ c ∧ c ≤ 'f') || ('A' ≤ c ∧ c ≤ 'F')

/-- Decimal digits. -/
def decimals : Piece := digits Char.isDigit

/-- Hexadecimal digits. -/
def hexDigits : Piece := digits isHexDigit

/-- Decimal digits without a zero at their front, or a single zero. -/
def plain : Piece
  | '0' :: rest => some rest
  | cs => decimals cs

/-- The mark of a long integer. -/
def longMark : Piece := optional (oneOf ['l', 'L'])

/-- The mark of a floating-point number. -/
def floatMark : Piece := oneOf ['f', 'F', 'd', 'D']

/-- An exponent after one of some letters. -/
def exponent (letters : List Char) (ds : Piece) : Piece :=
  ((oneOf letters).andThen (optional (oneOf ['-', '+']))).andThen ds

/-- A zero followed by one of some letters. -/
def zeroAnd (letters : List Char) : Piece := (oneOf ['0']).andThen (oneOf letters)

/-- The exponent and mark of a decimal floating-point number, both of which may be missing. -/
def floatTail : Piece := (optional (exponent ['e', 'E'] decimals)).andThen (optional floatMark)

/-- The exponent of a hexadecimal floating-point number, which may be missing. -/
def hexTail : Piece :=
  optional ((exponent ['e', 'E', 'p', 'P'] plain).andThen (optional floatMark))

/-- All spellings of numbers. -/
def numbers : List Piece := [
  plain.andThen longMark,
  (zeroAnd ['x', 'X']).andThen (hexDigits.andThen longMark),
  (oneOf ['0']).andThen ((optional (oneOf ['o', 'O'])).andThen
    ((digits fun c => '0' ≤ c ∧ c ≤ '7').andThen longMark)),
  (zeroAnd ['b', 'B']).andThen ((digits fun c => c = '0' || c = '1').andThen longMark),
  decimals.andThen ((oneOf ['.']).andThen ((optional decimals).andThen floatTail)),
  (oneOf ['.']).andThen (decimals.andThen floatTail),
  plain.andThen ((exponent ['e', 'E', 'p', 'P'] decimals).andThen (optional floatMark)),
  plain.andThen ((optional (exponent ['e', 'E'] decimals)).andThen floatMark),
  (zeroAnd ['x', 'X']).andThen (hexDigits.andThen ((optional (oneOf ['.'])).andThen hexTail)),
  (zeroAnd ['x', 'X']).andThen ((optional hexDigits).andThen ((oneOf ['.']).andThen
    (hexDigits.andThen hexTail)))]

end Piece

/-- The shorter of what is left after two pieces. -/
def shorter (a b : Option (List Char)) : Option (List Char) :=
  match a, b with
  | none, b => b
  | a, none => a
  | some x, some y => if y.length < x.length then some y else some x

/-- What is left of a text after the longest number it begins with. -/
def afterNumber (cs : List Char) : Option (List Char) :=
  (Piece.numbers.map fun piece => piece cs).foldl shorter none

end StatementLens.Java
