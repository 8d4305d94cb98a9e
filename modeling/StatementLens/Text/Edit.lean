import StatementLens.Text.Lines

/-!
# Edits

A change replaces a range of a text, or the whole text. A range whose end comes before its start is
read as the empty range at its start.
-/

namespace StatementLens

open Text

/-- A replacement of a range of a text, or of all of it. -/
structure TextChange where
  range : Option Range
  text : List Char

/-- The text after one change. -/
def TextChange.apply (change : TextChange) (text : List Char) : List Char :=
  match change.range with
  | none => change.text
  | some range =>
    let indexed := IndexedText.ofText text
    let start := indexed.offsetAt range.start
    let stop := max start (indexed.offsetAt range.stop)
    takeBytes start text ++ change.text ++ dropBytes stop text

/-- The text after a list of changes, made one after the other. -/
def applyChanges (text : List Char) (changes : List TextChange) : List Char :=
  changes.foldl (fun t change => change.apply t) text

end StatementLens
