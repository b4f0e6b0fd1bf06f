import TagSearch.Console.ColumnWidths

/-!
# Tables

A table is drawn with a frame around its cells and a heavy one around its head, within a limit for
its width if there is one.

* `TextTable.render` draws a table.
-/

namespace TagSearch

/-- A table by its columns and its rows. -/
structure TextTable where
  columns : List TableColumn
  rows : List (List String)
  deriving DecidableEq, Repr

namespace TextTable

/-- The spaces on both sides of a cell. -/
def padding : Nat := 2

/-- The heads of the columns. -/
def heads (t : TextTable) : List String := t.columns.map (·.head)

/-- The widths that the columns ask for, with the spaces around their cells. -/
def naturalWidths (t : TextTable) : List Nat :=
  let widen (widths : List Nat) (row : List String) : List Nat :=
    List.zipWith (fun w cell => max w (naturalWidth cell)) widths row
  (t.rows.foldl widen (t.heads.map naturalWidth)).map (· + padding)

/-- The widths of the columns when the table, with its bars, is not wider than a limit. -/
def widths (t : TextTable) (limit : Option Nat) : List Nat :=
  fitWidths (limit.map (· - (t.columns.length + 1))) (t.columns.map (·.wraps)) t.naturalWidths

/-- A line of the frame, with the pieces at its left end, between columns, at its right end and
along the columns. -/
def rule (left middle right along : Char) (widths : List Nat) : List Char :=
  left :: List.intercalate [middle] (widths.map fun w => List.replicate w along) ++ [right]

/-- The lines of a cell with the spaces around them. A column that has only room for these shows
nothing. -/
def cellLines (column : TableColumn) (width : Nat) (text : String) : List (List Char) :=
  if width ≤ padding then []
  else (column.layout (width - padding) text).map fun line => ' ' :: line ++ [' ']

/-- The lines of a row. Cells with fewer lines than others are filled up with blank ones. -/
def rowLines (bar : Char) (columns : List (TableColumn × Nat)) (row : List String) :
    List (List Char) :=
  let cells := List.zipWith (fun (column, width) text => cellLines column width text) columns row
  let height := (cells.map List.length).foldl max 0
  (List.range height).map fun i =>
    let line := List.zipWith
      (fun (_, width) lines => lines.getD i (List.replicate width ' ')) columns cells
    bar :: List.intercalate [bar] line ++ [bar]

/-- The drawing of a table that is not wider than a limit. -/
def render (t : TextTable) (limit : Option Nat) : String :=
  let widths := t.widths limit
  let columns := t.columns.zip widths
  let lines :=
    [rule '┏' '┳' '┓' '━' widths] ++ rowLines '┃' columns t.heads ++
      [rule '┡' '╇' '┩' '━' widths] ++ t.rows.flatMap (rowLines '│' columns) ++
      [rule '└' '┴' '┘' '─' widths]
  String.ofList (lines.flatMap (· ++ ['\n']))

end TextTable

end TagSearch
