import StatementLens.Java.Keyword
import StatementLens.Java.Number
import StatementLens.Java.Symbol
import StatementLens.Text.Identifier
import StatementLens.Text.Span

/-!
# Tokens

A Java source is cut into tokens. White space and comments stand between tokens; comments are kept
with the token that follows them. A text in quotes is one token, unless expressions are embedded in
it, which divide it into an opening, middle and closing tokens around those of the expressions.
-/

namespace StatementLens.Java

open Text

/-- The kinds of tokens. -/
inductive TokenKind where
  /-- A word, with the meaning that it may have. -/
  | word (keyword : Option Keyword)
  | symbol (symbol : Symbol)
  | number
  /-- Characters in single quotes. -/
  | character
  /-- A whole text. -/
  | text
  /-- A text up to its first embedded expression. -/
  | textOpen
  /-- A text between two embedded expressions. -/
  | textMiddle
  /-- A text from its last embedded expression on. -/
  | textClose
  deriving DecidableEq, Repr

/-- A token, the offsets between which it stands, and the comments in front of it. A glued token
follows the token before it without a gap. -/
structure Token where
  kind : TokenKind
  chars : List Char
  start : Nat
  stop : Nat
  glued : Bool
  comments : List (List Char)
  deriving DecidableEq, Repr

/-! ## Gaps -/

/-- Whether a character is white space. -/
def isBlankChar (c : Char) : Bool :=
  c = ' ' || c = '\t' || c = '\n' || c = '\r' || c.toNat = 0x0B || c.toNat = 0x0C

/-- Carries `blockEnd`; `length` counts the characters passed. -/
def blockEndFrom (length : Nat) : List Char → Option Nat
  | '*' :: '/' :: _ => some (length + 2)
  | _ :: rest => blockEndFrom (length + 1) rest
  | [] => none

/-- The number of characters of a comment up to its `*/`, given what follows its opening. -/
def blockEnd (cs : List Char) : Option Nat := blockEndFrom 0 cs

/-- The number of characters of the comment that a text begins with. -/
def commentLength (cs : List Char) : Option Nat :=
  match cs with
  | '/' :: '/' :: rest => some (2 + (rest.takeWhile (· ≠ '\n')).length)
  | '/' :: '*' :: rest => (blockEnd rest).map (2 + ·)
  | _ => none

/-- Skips white space and comments; the comments, the last one first, are put onto `comments`. -/
def skipGap : Nat → List (List Char) → Span → List (List Char) × Span
  | 0, comments, s => (comments, s)
  | fuel + 1, comments, s =>
    let s := s.dropWhile isBlankChar
    match commentLength s.chars with
    | some n => skipGap fuel (s.chars.take n :: comments) (s.drop n)
    | none => (comments, s)

/-! ## Texts -/

/-- Whether a word may start with a character. -/
def isWordStart (c : Char) : Bool := isIdentifierStart c || c = '_' || c = '$'

/-- Whether a word may hold a character. -/
def isWordPart (c : Char) : Bool := isIdentifierContinue c || c = '$' || c = '¢'

/-- The number of characters of an escape in a text, given what follows its backslash. -/
def escapeLength (cs : List Char) : Option Nat :=
  match cs with
  | [] => none
  | 'x' :: a :: b :: _ => if Piece.isHexDigit a && Piece.isHexDigit b then some 3 else none
  | 'u' :: '{' :: rest =>
    let digits := rest.takeWhile Piece.isHexDigit
    if !digits.isEmpty && (rest.drop digits.length).head? = some '}' then some (digits.length + 3)
    else none
  | 'u' :: a :: b :: c :: d :: _ =>
    if [a, b, c, d].all Piece.isHexDigit then some 5 else none
  | c :: rest =>
    let isOctal (c : Char) : Bool := '0' ≤ c && c ≤ '7'
    if isOctal c then some (1 + ((rest.take 2).takeWhile isOctal).length)
    else if c = 'x' || c = 'u' then none
    else some 1

/-- How a stretch of a text ends. -/
inductive TextEnd where
  | closed
  | embedded
  deriving DecidableEq, Repr

/-- The number of characters of a text up to its end or its next embedded expression. A block of
lines ends at three quotes and allows any character after a backslash. -/
def textLength (block : Bool) : Nat → Nat → List Char → Option (TextEnd × Nat)
  | 0, _, _ => none
  | fuel + 1, length, cs =>
    match cs with
    | [] => none
    | '\\' :: '{' :: _ => some (.embedded, length + 2)
    | '\\' :: rest =>
      let escape := if block then (if rest.isEmpty then none else some 1) else escapeLength rest
      escape.bind fun n => textLength block fuel (length + 1 + n) (rest.drop n)
    | '"' :: rest =>
      if !block then some (.closed, length + 1)
      else if ['"', '"'].isPrefixOf rest then some (.closed, length + 3)
      else textLength block fuel (length + 1) rest
    | _ :: rest => textLength block fuel (length + 1) rest

/-- The number of characters of what stands in single quotes, given what follows the first one. -/
def characterLength : Nat → List Char → Option Nat
  | length, '\'' :: _ => if length = 0 then none else some (length + 1)
  | length, '\\' :: _ :: rest => characterLength (length + 2) rest
  | _, '\\' :: [] => none
  | _, '\n' :: _ => none
  | length, _ :: rest => characterLength (length + 1) rest
  | _, [] => none

/-! ## Cutting -/

/-- A text that is interrupted by an embedded expression: whether it is a block of lines, and how
many braces are open in the expression. -/
structure Interrupted where
  block : Bool
  braces : Nat
  deriving DecidableEq, Repr

/-- The kind and the length of the token at the front of a text, and the interrupted texts behind
it. -/
abbrev Cut := TokenKind × Nat × List Interrupted

/-- Cuts a stretch of a text, after `opening` characters. -/
def cutText (block : Bool) (opening : Nat) (closed embedded : TokenKind) (around : List Interrupted)
    (cs : List Char) : Option Cut :=
  (textLength block (cs.length + 1) opening (cs.drop opening)).map fun
    | (.closed, n) => (closed, n, around)
    | (.embedded, n) => (embedded, n, ⟨block, 0⟩ :: around)

/-- Cuts a symbol. Braces inside an embedded expression are counted, and one too many ends it. -/
def cutSymbol (around : List Interrupted) (cs : List Char) : Option Cut :=
  match Symbol.first? cs, around with
  | none, _ => none
  | some (.leftBrace, n), t :: rest => some (.symbol .leftBrace, n, ⟨t.block, t.braces + 1⟩ :: rest)
  | some (.rightBrace, n), t :: rest =>
    if t.braces = 0 then cutText t.block 1 .textClose .textMiddle rest cs
    else some (.symbol .rightBrace, n, ⟨t.block, t.braces - 1⟩ :: rest)
  | some (s, n), around => some (.symbol s, n, around)

/-- Cuts the token at the front of a text. -/
def cutToken (around : List Interrupted) (cs : List Char) : Option Cut :=
  match cs with
  | [] => none
  | '"' :: '"' :: '"' :: _ => cutText true 3 .text .textOpen around cs
  | '"' :: _ => cutText false 1 .text .textOpen around cs
  | '\'' :: rest => (characterLength 0 rest).map fun n => (.character, n + 1, around)
  | c :: rest =>
    if isWordStart c then
      let word := c :: rest.takeWhile isWordPart
      some (.word (Keyword.ofChars? word), word.length, around)
    else if c.isDigit || (c = '.' && (rest.head?.map Char.isDigit).getD false) then
      (afterNumber cs).map fun left => (.number, cs.length - left.length, around)
    else cutSymbol around cs

/-- Cuts a source from a span on; `done` holds the tokens cut, the last one first, and `stop` is the
end of the last one. -/
def cutTokens : Nat → List Interrupted → List Token → Nat → Span → Option (List Token)
  | 0, _, _, _, _ => none
  | fuel + 1, around, done, stop, s => do
    let (comments, s) := skipGap (fuel + 1) [] s
    if s.atEnd then return done.reverse
    else
      let (kind, n, around) ← cutToken around s.chars
      let rest := s.drop n
      let token : Token :=
        ⟨kind, s.chars.take n, s.offset, rest.offset, s.offset = stop, comments.reverse⟩
      cutTokens fuel around (token :: done) rest.offset rest

/-- Cuts a source into tokens, if all of it can be. A byte order mark at the start is skipped. -/
def tokens (text : List Char) : Option (List Token) :=
  let s := Span.ofText text
  let s := if s.head? = some (Char.ofNat 0xFEFF) then s.tail else s
  cutTokens (text.length + 1) [] [] text.length s

end StatementLens.Java
