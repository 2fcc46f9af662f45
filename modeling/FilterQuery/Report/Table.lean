import FilterQuery.Text.Width

/-!
# Boxed tables

A table is drawn with box characters. Each column is as wide as its widest line, with a blank on both
sides; a line break inside a cell makes the row higher, and nothing is wrapped.

The table is always the one for an output that is no terminal. For a terminal it would be wrapped to the
width of the terminal, and the cells of its header would be bold. Neither is done here: the width is no
part of the world of a run, and `CommandLine.World.terminal` decides only on the styles of headings and
notices.
-/

namespace FilterQuery

/-- A table: its header, and rows with as many cells as the header has. -/
structure Table where
  header : List String
  rows : List (List String)
deriving DecidableEq

namespace Table

/-- The lines of a text. There is always one. -/
def linesOf : List Char → List (List Char)
  | [] => [[]]
  | '\n' :: rest => [] :: linesOf rest
  | c :: rest =>
    match linesOf rest with
    | [] => [[c]]
    | line :: lines => (c :: line) :: lines

/-- The lines of a cell. -/
def cellLines (cell : String) : List (List Char) :=
  linesOf cell.toList

/-- The columns of its widest line that a cell takes on a terminal. -/
def cellWidth (cell : String) : Nat :=
  ((cellLines cell).map Text.textWidth).foldl max 0

/-- The widths of the columns of a table. -/
def columnWidths (table : Table) : List Nat :=
  table.rows.foldl (fun widths row => List.zipWith max widths (row.map cellWidth))
    (table.header.map cellWidth)

/-- A line of a cell, filled up to the width of its column. -/
def padLine (width : Nat) (line : List Char) : List Char :=
  ' ' :: line ++ List.replicate (width - Text.textWidth line) ' ' ++ [' ']

/-- A horizontal line of the box. -/
def rule (left fill cross right : Char) (widths : List Nat) : List Char :=
  left :: [cross].intercalate (widths.map fun width => List.replicate (width + 2) fill) ++ [right]

/-- The lines of a row. -/
def rowLines (widths : List Nat) (row : List String) : List (List Char) :=
  let cells := row.map cellLines
  let height := (cells.map List.length).foldl max 1
  (List.range height).map fun i =>
    let parts := List.zipWith (fun width lines => padLine width (lines.getD i [])) widths cells
    '│' :: ['┆'].intercalate parts ++ ['│']

/-- The lines of a list of rows, with a rule between two rows. -/
def bodyLines (widths : List Nat) : List (List String) → List (List Char)
  | [] => []
  | [row] => rowLines widths row
  | row :: rest => rowLines widths row ++ rule '├' '╌' '┼' '┤' widths :: bodyLines widths rest

/-- The lines of a table. -/
def lines (table : Table) : List (List Char) :=
  let widths := table.columnWidths
  rule '┌' '─' '┬' '┐' widths :: rowLines widths table.header ++
    rule '╞' '═' '╪' '╡' widths :: bodyLines widths table.rows ++ [rule '└' '─' '┴' '┘' widths]

/-- The text of a table. -/
def text (table : Table) : String :=
  String.ofList (['\n'].intercalate table.lines)

end Table

end FilterQuery
