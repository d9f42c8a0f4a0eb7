import ChangeFeed.Json.Writer
import ChangeFeed.Symbol.Tag
import ChangeFeed.Text.Lines

/-!
Listings of definitions as records in JSON, one in a line.

`listing` writes the records, and `Definition.tag` is what a record stands for.
-/

namespace ChangeFeed.Ctags

/-- A definition as a tag program reports it. -/
structure Definition where
  path : Text
  name : Text
  kind : Text := []
  signature : Text := []
  line : Int
  deriving DecidableEq, Repr

namespace Definition

/-- The record of a definition. -/
def fields (d : Definition) : Table :=
  [("_type", .text "tag"), ("name", .text d.name), ("path", .text d.path), ("kind", .text d.kind),
    ("signature", .text d.signature), ("line", .int d.line)]

/-- The tag that the record stands for. -/
def tag (d : Definition) : Tag where
  file := .text d.path
  name := .text d.name
  kind := .text d.kind
  signature := .text d.signature
  line := d.line

/-- The line of a definition; `ascii` is whether all characters outside ASCII are escaped. -/
def render (ascii : Bool) (d : Definition) : Text := Json.shown { ascii } (.table d.fields)

end Definition

/-- Definitions one in a line, without a newline at the end. -/
def listing (ascii : Bool) (ds : List Definition) : Text :=
  Text.join "\n" (ds.map (Definition.render ascii))

end ChangeFeed.Ctags
