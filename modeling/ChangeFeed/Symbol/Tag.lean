import ChangeFeed.Text.Blank
import ChangeFeed.Value.Literal

/-!
Tags: the definitions of symbols in files.

All of a tag but its line is what the tag program reported, which is a text unless that program
reported something else.
-/

namespace ChangeFeed

/-- The definition of a symbol at a line of a file. -/
structure Tag where
  file : Value
  name : Value
  kind : Value := .text []
  signature : Value := .text []
  line : Int := 0
  deriving DecidableEq, Repr

namespace Tag

/-- Kind, name and signature in one line, without blanks at the ends. -/
def points (t : Tag) : CodePoints :=
  (t.kind.points ++ " " ++ t.name.points ++ t.signature.points).strip

/-- Kind, name and signature, with halves of characters escaped. -/
def display (t : Tag) : Text := t.points.escaped

/-- File, line and display, as `file:3 func f()`. -/
def summary (t : Tag) : Text :=
  t.file.display ++ ":" ++ Text.ofInt t.line ++ " " ++ t.display

end Tag

end ChangeFeed
