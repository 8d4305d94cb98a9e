import StatementLens.Text.Boundaries
import StatementLens.Text.Bytes
import StatementLens.Text.Position

/-!
# Lines of a text

A line ends at a line feed. Offsets and positions are converted through the sorted array of the
offsets at which lines start. The content of a line leaves out its line feed and one carriage return
before it (or before the end of the text), so a column beyond the content is clamped to its end.
-/

namespace StatementLens

open Text

/-- The offsets at which the lines of a text start. -/
def lineStarts (text : List Char) : Array Nat :=
  (text.foldl
    (fun (starts, offset) c =>
      let next := offset + c.utf8Size
      (if c = '\n' then starts.push next else starts, next))
    ((#[0] : Array Nat), 0)).1

/-- A text together with the offsets at which its lines start. -/
structure IndexedText where
  text : List Char
  starts : Array Nat
  starts_eq : starts = lineStarts text

namespace IndexedText

/-- Indexes the lines of a text. -/
def ofText (text : List Char) : IndexedText :=
  ⟨text, lineStarts text, rfl⟩

/-- The number of lines, which is one more than the number of line feeds. -/
def lineCount (t : IndexedText) : Nat := t.starts.size

/-- The position of a byte offset. An offset inside a character counts as the start of it, and one
beyond the text as its end. -/
def positionAt (t : IndexedText) (offset : Nat) : Position :=
  let place := floorBoundary offset t.text
  let line := countAtMost t.starts place - 1
  let start := t.starts.getD line 0
  ⟨line, unitsBefore (place - start) (dropBytes start t.text)⟩

/-- The offsets between which the content of a line stands. -/
def lineBounds (t : IndexedText) (line : Nat) : Option (Nat × Nat) :=
  match t.starts[line]? with
  | none => none
  | some start =>
    let stop := match t.starts[line + 1]? with
      | some next => next - 1
      | none => byteLength t.text
    if (slice start stop t.text).getLast? = some '\r' then some (start, stop - 1)
    else some (start, stop)

/-- The byte offset of a position. A column beyond its line is clamped to the end of the line's
content, and a line beyond the text to the end of the text. -/
def offsetAt (t : IndexedText) (p : Position) : Nat :=
  match t.lineBounds p.line with
  | none => byteLength t.text
  | some (start, stop) => start + bytesBefore p.character (slice start stop t.text)

/-- The range between two byte offsets. -/
def rangeOf (t : IndexedText) (start stop : Nat) : Range :=
  ⟨t.positionAt start, t.positionAt stop⟩

end IndexedText

end StatementLens
