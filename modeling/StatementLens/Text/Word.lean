import StatementLens.Text.Alphanumeric
import StatementLens.Text.Lines

/-!
# Words

A word is a longest stretch of letters, digits, underscores and dollar signs within a line.
-/

namespace StatementLens

open Text

/-- Whether a character belongs to words. -/
def isWordChar (c : Char) : Bool :=
  isAlphanumeric c || c = '_' || c = '$'

namespace IndexedText

/-- The range of the word that touches a position, which may stand at either end of it. -/
def wordAt (t : IndexedText) (p : Position) : Option Range :=
  match t.lineBounds p.line with
  | none => none
  | some (start, stop) =>
    let offset := t.offsetAt p
    let before := (slice start offset t.text).reverse.takeWhile isWordChar
    let after := (slice offset stop t.text).takeWhile isWordChar
    if before.isEmpty && after.isEmpty then none
    else some (t.rangeOf (offset - byteLength before) (offset + byteLength after))

end IndexedText

end StatementLens
