/-
Tables drawn with lines.

A column is as wide as its widest line, with a blank on each side. A cell may
hold several lines; its row is then as high as its highest cell.
-/
import ClusterUtility.Text.Width

namespace ClusterUtility

/-- A table: the heads of its columns, and its rows. Every row has a cell for
every column. -/
structure Table where
  header : List String
  rows : List (List String)

namespace Table

/-- The lines of a cell. -/
def lines (cell : String) : List String :=
  cell.splitOn "\n"

/-- The number of columns that the widest line of a cell takes. -/
def cellWidth (cell : String) : Nat :=
  ((lines cell).map Text.width).foldl max 0

/-- The width of each column. -/
def widths (t : Table) : List Nat :=
  t.rows.foldl (fun ws row => List.zipWith max ws (row.map cellWidth))
    (t.header.map cellWidth)

/-- A character, repeated. -/
def stretch (c : Char) (n : Nat) : String :=
  String.ofList (List.replicate n c)

/-- A line between blanks, filled up to a width. -/
def pad (width : Nat) (line : String) : String :=
  " " ++ line ++ stretch ' ' (width - Text.width line) ++ " "

/-- One line of a row, between its borders. -/
def rowLine (ws : List Nat) (cells : List String) : String :=
  "│" ++ String.intercalate "┆" (List.zipWith pad ws cells) ++ "│"

/-- The lines of a row, from a given line of its cells on. -/
def rowLinesFrom (ws : List Nat) (cells : List (List String)) (height : Nat) :
    List String :=
  (List.range height).map fun k =>
    rowLine ws (cells.map fun cell => (cell[k]?).getD "")

/-- The lines of a row. -/
def rowLines (ws : List Nat) (row : List String) : List String :=
  let cells := row.map lines
  rowLinesFrom ws cells ((cells.map List.length).foldl max 0)

/-- A line across the table. -/
def rule (ws : List Nat) (left fill cross right : String) : String :=
  left ++ String.intercalate cross
    (ws.map fun w => String.join (List.replicate (w + 2) fill))
    ++ right

/-- The rows with a line between each two. -/
def body (ws : List Nat) : List (List String) → List String
  | [] => []
  | [row] => rowLines ws row
  | row :: rest => rowLines ws row ++ [rule ws "├" "╌" "┼" "┤"] ++ body ws rest

/-- The table as text. -/
def draw (t : Table) : String :=
  let ws := t.widths
  String.intercalate "\n"
    ([rule ws "┌" "─" "┬" "┐"]
      ++ rowLines ws t.header
      ++ [rule ws "╞" "═" "╪" "╡"]
      ++ body ws t.rows
      ++ [rule ws "└" "─" "┴" "┘"])

end Table

end ClusterUtility
