import ChangeFeed.Failure
import ChangeFeed.Report.Cell
import ChangeFeed.Report.Markup
import ChangeFeed.Value.Order

/-!
Tables for people.

A grid has a header and rows of cells, and every cell of a column is as wide as the widest one. A
cell shows a value in short: lists by their length, long texts cut, tables not at all. A row is as
high as its highest cell; the cells of the header stand at its bottom, all others at the top.
-/

namespace ChangeFeed

/-- Columns with their headers, which are texts in any grid that can be drawn, and rows with a cell
for each column. -/
structure Grid where
  columns : List Value
  rows : List (List Text)
  deriving DecidableEq, Repr

namespace Grid

/-- The most characters of a cell. -/
def maxCellLength : Value := .int 60

/-- The first `n` characters of a text, or all but the last ones if `n` is negative. -/
def cut (n : Int) (t : Text) : Text := t.take (if n < 0 then t.length - (-n).toNat else n.toNat)

/-- A text in a cell of at most `limit` characters. -/
def shortened (limit : Value) (t : Text) : Except Misuse Text := do
  if ← Value.compare true (.int t.length) limit then
    match limit.integer with
    | .ok n => return cut (n - 3) t ++ "...".toList
    | .error _ => throw .notSliced
  else return t

/-- A value in a cell of at most `limit` characters. -/
def cell (limit : Value) : Value → Except Failure Text
  | .null => .ok []
  | .bool b => .ok (if b then "Yes" else "No")
  | .list vs => .ok (Text.ofNat vs.length)
  | .table _ => .ok "\x7b...\x7d"
  | v => do
    let t ← v.shown.mapError Failure.numeral
    (shortened limit t).mapError .misuse

/-- The keys that come first, in this order. -/
def firstKeys : List Text := ["type", "title", "file", "filename", "name", "kind", "line", "time"]

/-- The most columns that are chosen. -/
def maxColumns : Nat := 8

/-- The columns for rows of which the first one has the given keys. -/
def columnsFor (keys : List Text) : List Text :=
  let first := firstKeys.filter keys.contains
  let others := (Text.sorted keys).filter fun k => !first.contains k
  (first ++ others).take maxColumns

/-- The given columns, or columns for the first of some rows if none are given. -/
def columnsOr (columns : List Value) (rows : List Table) : List Value :=
  if columns.isEmpty then
    (columnsFor (Key.texts ((rows.head?.map Table.keys).getD []))).map .text
  else columns

/-- The value of a row under a column, which has to be a key; one that the row does not have is
shown as nothing. -/
def valueUnder (row : Table) (column : Value) : Except Misuse Value :=
  match column.toKey? with
  | some key => .ok ((row.get? key).getD (.text []))
  | none => .error (.notKey column.kindName)

/-- The cells of a row under columns. -/
def cellsUnder (columns : List Value) (row : Table) : Except Failure (List Text) :=
  columns.mapM fun column => do
    let v ← (valueUnder row column).mapError Failure.misuse
    cell maxCellLength v

/-- The grid of some rows, with columns for the first row if none are given. -/
def ofRows (columns : List Value) (rows : List Table) : Except Failure Grid := do
  let columns := columnsOr columns rows
  return ⟨columns, ← rows.mapM (cellsUnder columns)⟩

/-- The cells of each column under its header. -/
def cellsByColumn (g : Grid) : List (Value × List Text) :=
  g.columns.zipIdx.map fun (header, i) => (header, g.rows.map fun r => r.getD i [])

/-- A header, which has to be a text. -/
def headerText : Value → Except Markup.Problem Text
  | .text t => .ok t
  | v => .error (.notDrawn v)

/-- The cells of a column without their tags, the header first. -/
def readColumn (header : Value) (cells : List Text) : Except Markup.Problem (List Cell.Styled) := do
  let header ← headerText header
  (header :: cells).mapM Markup.read

/-- Blank lines put behind the lines of a cell, or in front of them, up to a height. -/
def stretch (atBottom : Bool) (limit height : Nat) (lines : List Text) : List Text :=
  let blank := List.replicate (height - lines.length) (Text.fill limit ' ')
  if atBottom then blank ++ lines else lines ++ blank

/-- A line of one row, with bars between its pieces. -/
def lineText (bar : Text) (pieces : List Text) : Text :=
  bar ++ Text.join bar (pieces.map fun p => ' ' :: p ++ [' ']) ++ bar ++ ['\n']

/-- A row, which is as high as its highest cell and not without a line. -/
def rowText (bar : Text) (atBottom : Bool) (widths : List Nat) (cells : List Cell.Styled) : Text :=
  let blocks := widths.zipWith (fun w c => (Cell.lines w c.glyphs).map Cell.textOf) cells
  let height := (blocks.map List.length).foldl max 1
  let blocks := widths.zipWith (fun w b => stretch atBottom w height b) blocks
  (List.range height).flatMap fun i => lineText bar (blocks.map fun b => b.getD i [])

/-- A horizontal border of the given characters. -/
def borderText (left dash cross right : Char) (widths : List Nat) : Text :=
  left :: Text.join [cross] (widths.map fun w => Text.fill (w + 2) dash) ++ [right, '\n']

/-- The widths of columns. -/
def widthsOf (columns : List (List Cell.Styled)) : List Nat :=
  columns.map fun cells => (cells.map fun c => Cell.widest c.text).foldl max 0

/-- The cells of a row of columns. -/
def rowOf (columns : List (List Cell.Styled)) (i : Nat) : List Cell.Styled :=
  columns.map fun c => c.getD i ⟨[], []⟩

/-- The number of rows of columns, with the header. -/
def heightOf (columns : List (List Cell.Styled)) : Nat :=
  ((columns.head?.map List.length).getD 0)

/-- Looks at the styles that are drawn, row by row. -/
def checkStyles (columns : List (List Cell.Styled)) : Except Markup.Problem Unit :=
  let widths := widthsOf columns
  let styles (i : Nat) := widths.zipWith (fun w c => c.drawn w) (rowOf columns i)
  ((List.range (heightOf columns)).flatMap fun i => (styles i).flatten).forM Markup.checkStyle

/-- Columns of equal height, each from its header on, between borders. -/
def frame (columns : List (List Cell.Styled)) : Text :=
  let widths := widthsOf columns
  let row (bar : Text) (i : Nat) := rowText bar (i == 0) widths (rowOf columns i)
  borderText '┏' '━' '┳' '┓' widths ++ row "┃" 0 ++ borderText '┡' '━' '╇' '┩' widths ++
    (List.range (heightOf columns - 1)).flatMap (fun i => row "│" (i + 1)) ++
    borderText '└' '─' '┴' '┘' widths

/-- A grid as text, without the tags in its cells. -/
def render (g : Grid) : Except Markup.Problem Text := do
  if g.columns.isEmpty then return ['\n']
  let columns ← g.cellsByColumn.mapM fun c => readColumn c.1 c.2
  checkStyles columns
  return frame columns

end Grid

end ChangeFeed
