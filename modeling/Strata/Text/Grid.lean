import Strata.Text.Columns

/-!
# Tables in plain text

A table with ruled lines between its rows. Every column is as wide as its widest line and one space
of padding on either side; cells are aligned to the left, and a cell with line feeds takes several
lines. A header is set off by a double rule.
-/

namespace Strata.Text

/-- A table: an optional header and rows of cells. -/
structure Grid where
  /-- The titles of the columns. -/
  header? : Option (List String)
  /-- The cells, row by row. -/
  rows : List (List String)

namespace Grid

/-- The pieces of a list between occurrences of a separator. -/
def splitAt (separator : Char) : List Char → List (List Char)
  | [] => [[]]
  | c :: rest =>
    match splitAt separator rest with
    | piece :: pieces =>
      if c = separator then [] :: piece :: pieces else (c :: piece) :: pieces
    | [] => [[c]]

/-- The lines of a cell. -/
def cellLines (cell : String) : List String := (splitAt '\n' cell.toList).map String.ofList

/-- The width of a cell: that of its widest line. -/
def cellWidth (cell : String) : Nat := ((cellLines cell).map columns).foldl max 0

/-- The header and the rows. -/
def allRows (g : Grid) : List (List String) := g.header?.toList ++ g.rows

/-- The widths of two rows put together, column by column. -/
def maxWidths : List Nat → List Nat → List Nat
  | [], ws => ws
  | vs, [] => vs
  | v :: vs, w :: ws => max v w :: maxWidths vs ws

/-- The widths of the columns, each at least one. -/
def widths (g : Grid) : List Nat :=
  g.allRows.foldl (fun ws row => maxWidths ws (row.map fun cell => max 1 (cellWidth cell))) []

/-- A text repeated. -/
def repeated (c : Char) (n : Nat) : String := String.ofList (List.replicate n c)

/-- A rule: dashes below each column, joined by crosses, between two ends. -/
def rule (ends : String) (widths : List Nat) : String :=
  ends ++ "+".intercalate (widths.map fun w => repeated '-' (w + 2)) ++ ends

/-- The double rule below a header. -/
def doubleRule (widths : List Nat) : String :=
  "+" ++ "=".intercalate (widths.map fun w => repeated '=' (w + 2)) ++ "+"

/-- A line of a cell, padded to the width of its column. -/
def padded (width : Nat) (line : String) : String :=
  " " ++ line ++ repeated ' ' (width - columns line) ++ " "

/-- One line of a row: the line of each cell at an index, empty where the cell has no more. -/
def rowLine (widths : List Nat) (cells : List (List String)) (i : Nat) : String :=
  "|" ++ "|".intercalate (widths.zipWith (fun w ls => padded w (ls.getD i "")) cells) ++ "|"

/-- The lines of a row. -/
def rowLines (widths : List Nat) (row : List String) : List String :=
  let cells := row.map cellLines
  let height := (cells.map List.length).foldl max 0
  (List.range height).map (rowLine widths cells)

/-- The lines of a table. -/
def lines (g : Grid) : List String :=
  let ws := g.widths
  let header := match g.header? with
    | some titles => rowLines ws titles ++ [doubleRule ws]
    | none => []
  [rule "+" ws] ++ header ++
    [rule "|" ws].intercalate (g.rows.map (rowLines ws)) ++
    [rule "+" ws]

/-- The written form of a table. -/
def render (g : Grid) : String := "\n".intercalate g.lines

end Grid

end Strata.Text
