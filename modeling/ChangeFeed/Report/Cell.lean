import ChangeFeed.Text.Blank
import ChangeFeed.Text.Lines

/-!
Texts laid out in the cells of a column.

A column is as wide as its texts are before tabs are spread, so a line with tabs may be too long for
it: it is then broken between words, and what still does not fit is cut off. Every character carries
the styles that it has, so that it is known afterwards which of them are left to be drawn.
-/

namespace ChangeFeed.Cell

/-- The control characters that are left out of cells: bell, backspace, vertical tab, form feed and
carriage return. -/
def isLeftOut (c : Char) : Bool := [7, 8, 11, 12, 13].contains c.toNat

/-- The text of a cell without the control characters that are left out. -/
def clean (t : Text) : Text := t.filter (!isLeftOut ·)

/-- The room that a character takes; control characters take none. -/
def charWidth (c : Char) : Nat :=
  if c.toNat < 32 ∨ (127 ≤ c.toNat ∧ c.toNat < 160) then 0 else 1

/-- The room that a line takes. -/
def width (t : Text) : Nat := (t.map charWidth).foldl (· + ·) 0

/-- The room that the widest line of a text takes. -/
def widest (t : Text) : Nat := ((Text.universalLines t).map width).foldl max 0

/-- A character with its styles. -/
structure Glyph where
  char : Char
  styles : List Text := []
  deriving DecidableEq, Repr

/-- The characters of a line without their styles. -/
def textOf (line : List Glyph) : Text := line.map Glyph.char

/-- The distance between two stops of the tabulator. -/
def tabStop : Nat := 8

/-- A line with spaces up to the next stop in the place of each tab, from a column on. -/
def spread (column : Nat) : List Glyph → List Glyph
  | [] => []
  | g :: line =>
    if g.char = '\t' then
      let next := (column / tabStop + 1) * tabStop
      List.replicate (next - column) { g with char := ' ' } ++ spread next line
    else g :: spread (column + charWidth g.char) line

/-- Whether a character is a blank. -/
def Glyph.isBlank (g : Glyph) : Bool := Text.isBlank g.char

/-- The words of a line, each with the blanks behind it, and the first one also with those in front
of it. -/
def words (line : List Glyph) : List (List Glyph) :=
  match line.splitBy fun a b => !(a.isBlank && !b.isBlank) with
  | first :: second :: rest =>
    if first.all Glyph.isBlank then (first ++ second) :: rest else first :: second :: rest
  | pieces => pieces

/-- Words put into lines of a width, behind a line that has been started and takes `used`. -/
def fillLines (limit used : Nat) (line : List Glyph) : List (List Glyph) → List (List Glyph)
  | [] => [line]
  | w :: ws =>
    let own := width (Text.stripEnd (textOf w))
    let all := width (textOf w)
    if used + own ≤ limit then fillLines limit (used + all) (line ++ w) ws
    else if line ≠ [] ∧ (limit < own ∨ used ≠ 0) then line :: fillLines limit all w ws
    else fillLines limit (if limit < own then all else used) (line ++ w) ws

/-- A line without the blanks at its end that go over a width. -/
def dropExcess (limit : Nat) (line : List Glyph) : List Glyph :=
  let blanks := (line.reverse.takeWhile Glyph.isBlank).length
  line.take (line.length - min blanks (line.length - limit))

/-- Whether a character is known to take the room of one without a look at its width. -/
def isPlain (c : Char) : Bool :=
  let n := c.toNat
  (0x20 ≤ n && n ≤ 0x6f) || n == 0xa0 || n == 0x2ff || (0x370 ≤ n && n ≤ 0x482)

/-- How many characters of a line take a width: found by halving what lies between two numbers, as
often as `fuel` allows. -/
def countFor (total : Nat) (t : Text) : Nat → Nat → Nat → Nat
  | 0, start, _ => start
  | fuel + 1, start, stop =>
    let middle := (start + stop) / 2
    let taken := width (t.take (middle + 1))
    if taken = total then middle + 1
    else if total < taken then countFor total t fuel start middle
    else countFor total t fuel middle stop

/-- How many characters are left of a line that is cut to a width. -/
def keptIn (total : Nat) (t : Text) : Nat :=
  if t.all isPlain then total
  else if total = 0 then 0
  else countFor total t (t.length + 1) 0 t.length

/-- A line filled up or cut off so that it takes a width. -/
def fit (limit : Nat) (line : List Glyph) : List Glyph :=
  if limit < width (textOf line) then
    let kept := keptIn (limit - 1) (textOf line)
    line.take kept ++ [⟨'…', ((line.drop kept).head?.map Glyph.styles).getD []⟩]
  else line ++ List.replicate (limit - width (textOf line)) ⟨' ', []⟩

/-- The lines of a text in a column of a width; without any width there are none. -/
def lines (limit : Nat) (t : List Glyph) : List (List Glyph) :=
  if limit = 0 then []
  else (t.splitOnP fun g => g.char == '\n').flatMap fun l =>
    (fillLines limit 0 [] (words (spread 0 l))).map fun w => fit limit (dropExcess limit w)

/-- A run of characters of a text that has a style; it may be empty. -/
structure Span where
  start : Nat
  stop : Nat
  style : Text
  deriving DecidableEq, Repr

/-- A text with the styles of its runs. -/
structure Styled where
  text : Text
  spans : List Span := []
  deriving DecidableEq, Repr

namespace Styled

/-- The characters with the styles of the runs that they are in. -/
def glyphs (s : Styled) : List Glyph :=
  s.text.zipIdx.map fun (c, i) =>
    ⟨c, (s.spans.filter fun p => p.start ≤ i && i < p.stop).map Span.style⟩

/-- The styles that are drawn in a column of a width. A text that stays in one piece has those of
empty runs as well, as far as they do not start in blanks that are dropped. -/
def drawn (s : Styled) (limit : Nat) : List Text :=
  let line := s.glyphs
  if limit = 0 then []
  else if s.text.any (fun c => c == '\n' || c == '\t') ||
      1 < (fillLines limit 0 [] (words line)).length then
    (lines limit line).flatten.flatMap Glyph.styles
  else
    let kept := (dropExcess limit line).length
    (s.spans.filter fun p => kept == s.text.length || p.start < kept).map Span.style

end Styled

end ChangeFeed.Cell
