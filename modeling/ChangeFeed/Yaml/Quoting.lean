import ChangeFeed.Yaml.Cursor
import ChangeFeed.Yaml.Scalar

/-!
How texts are written in YAML.

A text is written plain if it would be read back as the same text, else in single quotes if that can
show it, else in double quotes with escapes. A long line is broken at a single space, or behind a
backslash in double quotes.
-/

namespace ChangeFeed.Yaml

/-- Whether an indicator stands inside a text; `afterGap` says whether a gap comes before. -/
def hasIndicator (afterGap : Bool) : Text → Bool
  | [] => false
  | c :: t => (c == ':' && gapNext t) || (c == '#' && afterGap) || hasIndicator (isGap c) t

/-- Whether a text has indicators that keep it from being written plain. -/
def isIndicated : Text → Bool
  | [] => false
  | c :: t =>
    Text.startsWith "---" (c :: t) || Text.startsWith "..." (c :: t) || isLeadIndicator c ||
      ((c == '?' || c == ':' || c == '-') && gapNext t) || hasIndicator (isGap c) t

/-- Whether a character is shown only by an escape. -/
def isEscaped (c : Char) : Bool := c != '\n' && !(0x20 ≤ c.toNat && c.toNat ≤ 0x7e)

/-- Whether two characters that satisfy `p` and `q` follow each other. -/
def hasPair (p q : Char → Bool) : Text → Bool
  | a :: b :: t => (p a && q b) || hasPair p q (b :: t)
  | _ => false

/-- Whether a space or a line end stands at one of the ends of a text. -/
def hasLooseEnd (t : Text) : Bool :=
  let loose (c : Char) := c == ' ' || isBreak c
  t.head?.any loose || t.getLast?.any loose

/-- The ways in which a text can be written. -/
inductive Style where
  | plain
  | single
  | double
  deriving DecidableEq, Repr

/-- The way in which a text is written, as a key in front of its colon or anywhere else. -/
def styleOf (isKey : Bool) (t : Text) : Style :=
  let multiline := t.any isBreak
  let escaped := hasPair (· == ' ') isBreak t || t.any isEscaped
  let folded := hasPair isBreak (· == ' ') t
  let bare := t != [] && !multiline && !escaped && !hasLooseEnd t && !isIndicated t
  if bare && Tag.ofPlain t = .text then .plain
  else if !escaped && !folded && !(isKey && multiline) then .single
  else .double

/-- The column behind which lines are broken. -/
def lineWidth : Nat := 80

/-- A new line at an indentation. -/
def newline (indent : Nat) : Text := '\n' :: Text.fill indent ' '

/-- The runs of a text in which all characters or none are spaces. -/
def spaceRuns (t : Text) : List Text := t.splitBy fun a b => (a == ' ') == (b == ' ')

/-- A plain text in runs, from a column on. -/
def plainText (split : Bool) (indent column : Nat) : List Text → Text
  | [] => []
  | run :: runs =>
    if run = [' '] ∧ lineWidth < column ∧ split then
      newline indent ++ plainText split indent indent runs
    else run ++ plainText split indent (column + run.length) runs

/-- A text with each single quote doubled. -/
def doubleQuotes (t : Text) : Text := Text.replaceChar '\'' ['\'', '\''] t

/-- The runs of spaces, of line ends and of other characters in a text. -/
def kindRuns (t : Text) : List Text :=
  t.splitBy fun a b => (a == ' ') == (b == ' ') && isBreak a == isBreak b

/-- A text in runs as it stands between single quotes, from a column on. -/
def singleText (split first : Bool) (indent column : Nat) : List Text → Text
  | [] => []
  | run :: runs =>
    if run = [' '] ∧ lineWidth < column ∧ split ∧ first = false ∧ runs ≠ [] then
      newline indent ++ singleText split false indent indent runs
    else if run.head?.any isBreak then
      '\n' :: run ++ Text.fill indent ' ' ++ singleText split false indent indent runs
    else
      let shown := doubleQuotes run
      shown ++ singleText split false indent (column + shown.length) runs

/-- The letters of escapes, by code. -/
def escapeLetters : List (Nat × Char) := [
  (0x00, '0'), (0x07, 'a'), (0x08, 'b'), (0x09, 't'), (0x0a, 'n'), (0x0b, 'v'), (0x0c, 'f'),
  (0x0d, 'r'), (0x1b, 'e'), (0x22, '"'), (0x5c, '\\'), (0x85, 'N'), (0xa0, '_'), (0x2028, 'L'),
  (0x2029, 'P')]

/-- A number in capital hexadecimal digits, filled up with zeros on the left. -/
def capitalHex (width n : Nat) : Text := (Text.ofHexPadded width n).map Char.toUpper

/-- The escape of a character. -/
def escapeText (c : Char) : Text :=
  match escapeLetters.lookup c.toNat with
  | some l => ['\\', l]
  | none =>
    if c.toNat ≤ 0xff then '\\' :: 'x' :: capitalHex 2 c.toNat
    else if c.toNat ≤ 0xffff then '\\' :: 'u' :: capitalHex 4 c.toNat
    else '\\' :: 'U' :: capitalHex 8 c.toNat

/-- Whether a character is escaped between double quotes. -/
def isEscapedInDouble (c : Char) : Bool :=
  c == '"' || c == '\\' || !(0x20 ≤ c.toNat && c.toNat ≤ 0x7e)

/-- The backslash that ends a broken line, the new line, and a backslash that keeps a space in
front. -/
def brokenLine (indent : Nat) (next : Text) : Text :=
  '\\' :: newline indent ++ (if next.head? = some ' ' then ['\\'] else [])

/-- A text as it stands between double quotes. `held` has been read since the last escape and is not
written yet; what is written ends at `column`. -/
def doubleText (split : Bool) (indent column : Nat) (held : Text) (atStart : Bool) : Text → Text
  | [] => held
  | c :: t =>
    let inside := !atStart && t != [] && split
    if isEscapedInDouble c then
      let shown := held ++ escapeText c
      let column := column + shown.length
      if inside && lineWidth < column - 1 then
        let gap := brokenLine indent t
        shown ++ gap ++ doubleText split indent (gap.length - 2) [] false t
      else shown ++ doubleText split indent column [] false t
    else if inside && (c == ' ' || held == []) && lineWidth < column + held.length then
      let gap := brokenLine indent (c :: t)
      held ++ gap ++ doubleText split indent (gap.length - 2) [c] false t
    else doubleText split indent column (held ++ [c]) false t

/-- A text in a style, from a column on; lines may be broken unless it is a key. -/
def styledText (style : Style) (isKey : Bool) (indent column : Nat) (t : Text) : Text :=
  match style with
  | .plain => plainText (!isKey) indent column (spaceRuns t)
  | .single => '\'' :: singleText (!isKey) true indent (column + 1) (kindRuns t) ++ ['\'']
  | .double => '"' :: doubleText (!isKey) indent (column + 1) [] true t ++ ['"']

/-- A text that is no key, with continuation lines at an indentation. -/
def scalarText (indent column : Nat) (t : Text) : Text :=
  styledText (styleOf false t) false indent column t

end ChangeFeed.Yaml
