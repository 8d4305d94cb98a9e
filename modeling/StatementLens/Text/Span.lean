import StatementLens.Text.Bytes

/-!
# Spans

A span is a piece of a text that knows the byte offset at which it starts. Readers take characters
off its front.
-/

namespace StatementLens.Text

/-- A piece of a text and the offset at which it starts. -/
structure Span where
  offset : Nat
  chars : List Char
  deriving DecidableEq, Repr, Inhabited

namespace Span

/-- A whole text as a span. -/
def ofText (text : List Char) : Span := ⟨0, text⟩

/-- Whether nothing is left. -/
def atEnd (s : Span) : Bool := s.chars.isEmpty

/-- The first character. -/
def head? (s : Span) : Option Char := s.chars.head?

/-- The offset just past the span. -/
def stop (s : Span) : Nat := s.offset + byteLength s.chars

/-- The span without its first `n` characters. -/
def drop (n : Nat) (s : Span) : Span :=
  ⟨s.offset + byteLength (s.chars.take n), s.chars.drop n⟩

/-- The span without its first character. -/
def tail (s : Span) : Span :=
  match s.chars with
  | [] => s
  | c :: cs => ⟨s.offset + c.utf8Size, cs⟩

/-- Whether the span begins with `piece`. -/
def startsWith (piece : List Char) (s : Span) : Bool := piece.isPrefixOf s.chars

/-- The longest beginning of characters that `p` accepts, and what follows it. -/
def splitWhile (p : Char → Bool) (s : Span) : List Char × Span :=
  let (taken, rest) := s.chars.span p
  (taken, ⟨s.offset + byteLength taken, rest⟩)

/-- The span without its longest beginning of characters that `p` accepts. -/
def dropWhile (p : Char → Bool) (s : Span) : Span := (s.splitWhile p).2

end Span

end StatementLens.Text
