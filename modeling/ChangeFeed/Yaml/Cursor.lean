import ChangeFeed.Text.CodeRange

/-!
Characters of a document and what they do where they stand, and places in it.

A cursor is what is left of a document, with the place of its first character. Columns count what
takes room in a line, so a byte order mark does not count.
-/

namespace ChangeFeed.Yaml

/-- Whether a character may stand in a document. -/
def isAllowed (c : Char) : Bool :=
  let n := c.toNat
  n == 9 || n == 10 || n == 13 || (0x20 ≤ n && n ≤ 0x7e) || n == 0x85 ||
    (0xa0 ≤ n && n != 0xfffe && n != 0xffff)

/-- The mark that may stand in front of a document and takes no room anywhere. -/
def byteOrderMark : Char := '\ufeff'

/-- Whether a character ends a line. -/
def isBreak (c : Char) : Bool :=
  c == '\n' || c.toNat == 0x85 || c.toNat == 0x2028 || c.toNat == 0x2029

/-- The character that a line end in a scalar stands for. -/
def breakText (c : Char) : Char := if c = '\n' ∨ c.toNat = 0x85 then '\n' else c

/-- Whether a character is a space or a tab. -/
def isSpace (c : Char) : Bool := c == ' ' || c == '\t'

/-- Whether a character separates an indicator from what follows. -/
def isGap (c : Char) : Bool :=
  c.toNat == 0 || c == ' ' || c == '\t' || c == '\r' || isBreak c

/-- Whether nothing or a gap comes next. -/
def gapNext : Text → Bool
  | [] => true
  | c :: _ => isGap c

/-- Whether nothing, a space or a line end comes next. -/
def marginNext : Text → Bool
  | [] => true
  | c :: _ => c == ' ' || isBreak c

/-- Whether nothing or a line end comes next. -/
def breakNext : Text → Bool
  | [] => true
  | c :: _ => isBreak c

/-- Whether a character cannot start a plain text. -/
def isLeadIndicator (c : Char) : Bool :=
  "#,[]\x7b\x7d&*!|>'\"%@".toList.contains c || c.toNat == 0x60

/-- Whether a character ends a plain scalar in brackets or braces. -/
def isFlowMark (c : Char) : Bool := ",[]\x7b\x7d".toList.contains c

/-- Whether a character can stand in the name of an anchor, a directive or a tag handle. -/
def isNameCharacter (c : Char) : Bool :=
  Text.isAsciiLetter c || Text.isAsciiDigit c || c == '-' || c == '_'

/-- Whether a text starts with the mark of a document, for its start or for its end. -/
def isDocumentMark (t : Text) : Bool :=
  (Text.startsWith "---" t || Text.startsWith "..." t) && gapNext (t.drop 3)

/-- A place in a document: how many characters and lines are in front of it, and how far it is from
the start of its line. -/
structure Place where
  index : Nat := 0
  line : Nat := 0
  column : Nat := 0
  deriving DecidableEq, Repr

/-- The place behind a character. -/
def Place.past (p : Place) (c : Char) : Place :=
  if isBreak c then ⟨p.index + 1, p.line + 1, 0⟩
  else ⟨p.index + 1, p.line, if c = byteOrderMark then p.column else p.column + 1⟩

/-- What is left of a document from a place on. -/
structure Cursor extends Place where
  rest : Text
  deriving DecidableEq, Repr

namespace Cursor

/-- The cursor in front of a document, behind the mark that may come first. -/
def start (t : Text) : Cursor :=
  if t.head? = some byteOrderMark then ⟨Place.past {} byteOrderMark, t.drop 1⟩ else ⟨{}, t⟩

/-- The cursor behind as many characters. -/
def advance (n : Nat) (cur : Cursor) : Cursor :=
  ⟨(cur.rest.take n).foldl Place.past cur.toPlace, cur.rest.drop n⟩

/-- The characters that satisfy `p`, and the cursor behind them. -/
def span (p : Char → Bool) (cur : Cursor) : Text × Cursor :=
  let run := cur.rest.takeWhile p
  (run, cur.advance run.length)

/-- The cursor behind the characters that satisfy `p`. -/
def dropWhile (p : Char → Bool) (cur : Cursor) : Cursor := (cur.span p).2

/-- The cursor behind spaces and a comment, which need not be there. -/
def dropMargin (cur : Cursor) : Cursor :=
  let cur := cur.dropWhile (· == ' ')
  if cur.rest.head? = some '#' then cur.dropWhile (!isBreak ·) else cur

end Cursor

/-- What follows space, line ends and comments, and whether a line end was passed; `comment` says
that a comment is being passed, and `broken` that a line end was. -/
def skipFrom (comment broken : Bool) (p : Place) : Text → Bool × Cursor
  | [] => (broken, ⟨p, []⟩)
  | c :: t =>
    if isBreak c then skipFrom false true (p.past c) t
    else if comment || c == ' ' then skipFrom comment broken (p.past c) t
    else if c = '#' then skipFrom true broken (p.past c) t
    else (broken, ⟨p, c :: t⟩)

/-- What follows space, line ends and comments, and whether a line end was passed. -/
def skip (cur : Cursor) : Bool × Cursor := skipFrom false false cur.toPlace cur.rest

/-- The line ends from a place on, with what `blank` accepts at its column between them, and the
cursor behind. -/
def breaksFrom (blank : Nat → Char → Bool) (p : Place) : Text → Text × Cursor
  | [] => ([], ⟨p, []⟩)
  | c :: t =>
    if blank p.column c then breaksFrom blank (p.past c) t
    else if isBreak c then
      let r := breaksFrom blank (p.past c) t
      (breakText c :: r.1, r.2)
    else ([], ⟨p, c :: t⟩)

/-- The line ends from the start of a line on, with what `blank` accepts between them, unless the
mark of a document is met; and the cursor behind. -/
def linesFrom (blank : Char → Bool) (p : Place) : Text → Option Text × Cursor
  | [] => (some [], ⟨p, []⟩)
  | c :: t =>
    if p.column = 0 ∧ isDocumentMark (c :: t) then (none, ⟨p, c :: t⟩)
    else if blank c then linesFrom blank (p.past c) t
    else if isBreak c then
      let r := linesFrom blank (p.past c) t
      (r.1.map (breakText c :: ·), r.2)
    else (some [], ⟨p, c :: t⟩)

/-- Folds the line end `c` with the further line ends behind it: one alone is a space. -/
def foldBreaks (c : Char) (further : Text) : Text :=
  if breakText c ≠ '\n' then c :: further
  else if further = [] then [' ']
  else further

end ChangeFeed.Yaml
