import StatementLens.Text.Columns

/-!
# Tables

Tables for terminals, with a head and rounded corners. Each column is as wide as its widest cell.
-/

namespace StatementLens.Command

/-- A table: its head and its rows. -/
structure Table where
  head : List String
  rows : List (List String)

namespace Table

/-- The number of columns of a terminal that a cell takes. -/
def cellWidth (cell : String) : Nat := Text.columnLength cell.toList

/-- The widths of the columns. -/
def widths (t : Table) : List Nat :=
  t.rows.foldl (fun widths row => List.zipWith max widths (row.map cellWidth))
    (t.head.map cellWidth)

/-- A row of cells between lines, each filled up to the width of its column. -/
def rowLine (widths : List Nat) (cells : List String) : String :=
  let fill (width : Nat) (cell : String) : String :=
    cell ++ String.ofList (List.replicate (width - cellWidth cell) ' ')
  let padded := List.zipWith fill widths cells
  "│ " ++ " │ ".intercalate padded ++ " │"

/-- A line between rows. -/
def ruleLine (widths : List Nat) (left middle right : String) : String :=
  let dashes := widths.map fun width => String.ofList (List.replicate (width + 2) '─')
  left ++ middle.intercalate dashes ++ right

/-- The lines of a table. -/
def lines (t : Table) : List String :=
  let widths := t.widths
  [ruleLine widths "╭" "┬" "╮", rowLine widths t.head, ruleLine widths "├" "┼" "┤"]
    ++ t.rows.map (rowLine widths) ++ [ruleLine widths "╰" "┴" "╯"]

end Table

end StatementLens.Command
