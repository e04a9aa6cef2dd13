import DexSurface.Text.Width

/-!
# Tables of text

A table has a rule above, between and below its rows.  Columns are as wide as the widest line of
their cells, rows as high as their highest cell, and cells are filled up with blanks on the right
and blank lines below.
-/

namespace DexSurface

namespace Table

/-- The lines of a cell. -/
def cellLines (text : String) : List String :=
  text.splitOn "\n"

/-- The width of a cell: that of its widest line. -/
def cellWidth (text : String) : Nat :=
  ((cellLines text).map Width.ofText).foldl max 0

/-- The widths of columns that hold two sets of cells. -/
def widest (left right : List Nat) : List Nat :=
  left.zipWith max right

/-- The widths of the columns of rows of one length. -/
def widths (header : List String) (rows : List (List String)) : List Nat :=
  rows.foldl (fun widths row => widest widths (row.map cellWidth)) (header.map cellWidth)

/-- A character a number of times. -/
def repeated (count : Nat) (char : Char) : String :=
  String.ofList (List.replicate count char)

/-- A rule across columns. -/
def rule (widths : List Nat) : String :=
  "+" ++ String.join (widths.map fun width => repeated (width + 2) '-' ++ "+")

/-- A line of a cell filled up to a width. -/
def filled (line : String) (width : Nat) : String :=
  " " ++ line ++ repeated (width - Width.ofText line) ' ' ++ " |"

/-- The line at an index across the cells of a row; below its last line a cell is blank. -/
def rowLine (widths : List Nat) (cells : List String) (index : Nat) : String :=
  "|" ++ String.join (cells.zipWith (fun text => filled ((cellLines text)[index]?.getD "")) widths)

/-- The number of lines of a row: that of its highest cell. -/
def height (cells : List String) : Nat :=
  (cells.map fun text => (cellLines text).length).foldl max 0

/-- The lines of a row of cells. -/
def row (widths : List Nat) (cells : List String) : List String :=
  (List.range (height cells)).map (rowLine widths cells)

/-- The lines of a table. -/
def lines (header : List String) (rows : List (List String)) : List String :=
  let columns := widths header rows
  rule columns :: (header :: rows).flatMap fun cells => row columns cells ++ [rule columns]

end Table

end DexSurface
