import ChangeFeed.Json.Writer
import ChangeFeed.Report.Entries
import ChangeFeed.Report.Grid

/-!
What commands print: rows as lines of JSON or as a grid, a batch as one JSON value, an error as one
line of JSON.
-/

namespace ChangeFeed.Report

/-- A value as JSON with a line end behind it. -/
def document (s : Json.Style) (v : Value) : Except Failure CodePoints :=
  ((Json.write s v).map (· ++ ("\n" : CodePoints))).mapError .unwritable

/-- A row as a line of JSON. -/
def line (row : Table) : Except Failure CodePoints := document {} (.table row)

/-- Rows as JSON, each in a line of its own. -/
def lines (rows : List Table) : Except Failure CodePoints := (rows.mapM line).map List.flatten

/-- Rows as a grid that is drawn, with columns for the first row if none are given. -/
def grid (draw : Grid → Except Failure Text) (columns : List Value) (rows : List Table) :
    Except Failure Text :=
  if rows.isEmpty then .ok "No results found\n" else Grid.ofRows columns rows >>= draw

/-- A batch as a JSON value with an indentation, if one is given. -/
def batch (indent : Option Json.Indentation) (b : Batch) : Except Failure CodePoints :=
  document { indent } (.table b.entries)

/-- An error with its type and, if anything is, what is known about it. -/
def error (message type about : Value) : Text :=
  let about : Table := if about.isSet then [("context", about)] else []
  Json.shown {} (.table (("error", message) :: ("type", type) :: about)) ++ ['\n']

end ChangeFeed.Report
