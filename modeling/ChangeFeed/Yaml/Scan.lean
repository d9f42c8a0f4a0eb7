import ChangeFeed.Yaml.Cursor
import ChangeFeed.Yaml.Quoting

/-!
Scalars of YAML as they stand in a document.

A scalar may go over several lines: a single line end in it counts as a space, and further ones
stand for themselves. Only in a block scalar the lines stay apart.
-/

namespace ChangeFeed.Yaml

section plain

/-- Whether a plain scalar ends in front of a character with the given text behind it. -/
def endsPlain (flow : Bool) (c : Char) (t : Text) : Bool :=
  isGap c || (c == ':' && (gapNext t || (flow && t.head?.any isFlowMark))) ||
    (flow && (isFlowMark c || c == '?'))

/-- Whether a plain scalar can start with a character that has the given text behind it. -/
def startsPlain (flow : Bool) (c : Char) (t : Text) : Bool :=
  !(isGap c || isLeadIndicator c || c == '-' || c == '?' || c == ':') ||
    (!gapNext t && (c == '-' || (!flow && (c == '?' || c == ':'))))

/-- The characters of a plain scalar in front of a gap. -/
def runOf (flow : Bool) : Text → Text
  | [] => []
  | c :: t => if endsPlain flow c t then [] else c :: runOf flow t

/-- The gap in a plain scalar, whether it has a line end, and the place behind it. No gap is left in
front of the mark of a document. -/
def scanGap (cur : Cursor) : Text × Bool × Cursor :=
  let (spaces, next) := cur.span (· == ' ')
  match next.rest with
  | c :: t =>
    if isBreak c then
      match linesFrom (· == ' ') (next.past c) t with
      | (some further, last) => (foldBreaks c further, true, last)
      | (none, last) => ([], true, last)
    else (spaces, false, next)
  | [] => (spaces, false, next)

/-- A plain scalar whose further lines start at the column `least` or behind it; whether the place
behind it is in a new line, and that place. As many runs as `fuel` are read, and `broken` tells
whether a line end comes before the first one. -/
def scanPlain (flow : Bool) (least : Nat) : Nat → Bool → Cursor → Text × Bool × Cursor
  | 0, broken, cur => ([], broken, cur)
  | fuel + 1, broken, cur =>
    let run := runOf flow cur.rest
    if cur.rest.head? = some '#' ∨ run = [] then ([], broken, cur)
    else
      let (gap, broken, next) := scanGap (cur.advance run.length)
      if gap = [] ∨ (flow = false ∧ next.column < least) then (run, broken, next)
      else match scanPlain flow least fuel broken next with
        | ([], r) => (run, r)
        | (more, r) => (run ++ gap ++ more, r)

end plain

section quoted

/-- The character that a letter behind a backslash stands for. -/
def escaped? (c : Char) : Option Char :=
  if c = ' ' ∨ c = '/' ∨ c = '\t' then some c
  else (escapeLetters.find? fun e => e.2 == c).map fun e => Char.ofNat e.1

/-- The count of hexadecimal digits behind a letter behind a backslash. -/
def escapeWidth? (c : Char) : Option Nat := [('x', 2), ('u', 4), ('U', 8)].lookup c

/-- The number that hexadecimal digits stand for, if there are as many as given. -/
def hexNumber? (width : Nat) (ds : Text) : Option Nat :=
  if ds.length = width ∧ ds.all fun c => (Text.hexValue? c).isSome then some (baseValue 16 ds)
  else none

/-- A quoted scalar behind its opening quote, and the place behind its closing quote. -/
def scanQuoted (double : Bool) : Nat → Cursor → Except SyntaxProblem (Text × Cursor)
  | 0, _ => .error .quoting
  | fuel + 1, cur =>
    let onward (shown : Text) (next : Cursor) :=
      (scanQuoted double fuel next).map fun r => (shown ++ r.1, r.2)
    match cur.rest with
    | [] => .error .quoting
    | c :: t =>
      if c = '\'' ∧ double = false then
        if t.head? = some '\'' then onward ['\''] (cur.advance 2) else .ok ([], cur.advance 1)
      else if c = '"' ∧ double then .ok ([], cur.advance 1)
      else if c = '\\' ∧ double then
        match t with
        | [] => .error .quoting
        | e :: u =>
          if isBreak e then
            match linesFrom isSpace (cur.advance 2).toPlace u with
            | (some further, next) => onward further next
            | (none, _) => .error .misplaced
          else match escaped? e, escapeWidth? e with
            | some d, _ => onward [d] (cur.advance 2)
            | none, some width =>
              match hexNumber? width (u.take width) with
              | some n =>
                if n.isValidChar then onward [Char.ofNat n] (cur.advance (2 + width))
                else .error .quoting
              | none => .error .quoting
            | none, none => .error .quoting
      else if isSpace c || isBreak c then
        let (spaces, next) := cur.span isSpace
        match next.rest with
        | b :: u =>
          if isBreak b then
            match linesFrom isSpace (next.past b) u with
            | (some further, last) => onward (foldBreaks b further) last
            | (none, _) => .error .misplaced
          else onward spaces next
        | [] => .error .quoting
      else onward [c] (cur.advance 1)

end quoted

section block

/-- How the line ends behind a block scalar count. -/
inductive Chomping where
  | strip
  | clip
  | keep
  deriving DecidableEq, Repr

/-- The indentation that a digit gives, and the rest of the line. -/
def scanIncrement : Text → Option Nat × Text
  | d :: t => if Text.isAsciiDigit d then (some (d.toNat - 48), t) else (none, d :: t)
  | [] => (none, [])

/-- The chomping that a sign gives, and the rest of the line. -/
def scanChomping : Text → Option Chomping × Text
  | '+' :: t => (some .keep, t)
  | '-' :: t => (some .strip, t)
  | t => (none, t)

/-- The chomping and the extra indentation that stand behind the mark of a block scalar in either
order, and the rest of the line. -/
def scanIndicators (t : Text) : Chomping × Option Nat × Text :=
  match scanChomping t with
  | (some chomping, u) => (chomping, scanIncrement u)
  | (none, u) =>
    match scanIncrement u with
    | (some n, v) =>
      let (chomping, w) := scanChomping v
      (chomping.getD .clip, some n, w)
    | (none, v) => (.clip, none, v)

/-- The most spaces at the start of a line, among the blank lines from a column on and the line
behind. -/
def widestIndent (widest column : Nat) : Text → Nat
  | [] => widest
  | c :: t =>
    if c = ' ' then widestIndent (max widest (column + 1)) (column + 1) t
    else if isBreak c then widestIndent widest 0 t
    else widest

/-- Whether a space inside the indentation comes next. -/
def isIndentation (indent column : Nat) (c : Char) : Bool := c == ' ' && column < indent

/-- The lines of a block scalar from a cursor on, and the place behind. `before` are the line ends
in front of the cursor that count if a line follows. -/
def scanBlockLines (folded : Bool) (indent : Nat) (chomping : Chomping) :
    Nat → Text → Cursor → Text × Cursor
  | 0, _, cur => ([], cur)
  | fuel + 1, before, cur =>
    if cur.column = indent ∧ cur.rest ≠ [] then
      let (line, next) := cur.span (!isBreak ·)
      match next.rest with
      | [] => (before ++ line, next)
      | b :: t =>
        let (further, next) := breaksFrom (isIndentation indent) (next.past b) t
        if next.column = indent ∧ next.rest ≠ [] then
          let joined := folded && breakText b == '\n' && !line.head?.any isSpace &&
            !next.rest.head?.any isSpace
          let gap := if joined then (if further = [] then [' '] else []) else [breakText b]
          let (more, last) := scanBlockLines folded indent chomping fuel further next
          (before ++ line ++ gap ++ more, last)
        else
          let tail := match chomping with
            | .strip => []
            | .clip => [breakText b]
            | .keep => breakText b :: further
          (before ++ line ++ tail, next)
    else (if chomping = .keep then before else [], cur)

/-- A block scalar behind its mark, whose lines start at the column `least` or behind it, and the
place behind. -/
def scanBlock (folded : Bool) (least : Nat) (cur : Cursor) :
    Except SyntaxProblem (Text × Cursor) :=
  let (chomping, extra, t) := scanIndicators cur.rest
  let next := (cur.advance (cur.rest.length - t.length)).dropMargin
  if extra = some 0 ∨ marginNext t = false then .error .misplaced
  else match next.rest with
    | [] => .ok ([], next)
    | b :: u =>
      if isBreak b then
        let indent := match extra with
          | some n => least + n - 1
          | none => max least (widestIndent 0 0 u)
        let blank (column : Nat) (c : Char) : Bool :=
          if extra = none then c == ' ' else isIndentation indent column c
        let (before, first) := breaksFrom blank (next.past b) u
        .ok (scanBlockLines folded indent chomping (u.length + 1) before first)
      else .error .misplaced

end block

end ChangeFeed.Yaml
