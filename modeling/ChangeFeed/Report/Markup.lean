import ChangeFeed.Expression.Meaning
import ChangeFeed.Report.Cell
import ChangeFeed.Report.Style
import ChangeFeed.Text.Blank
import ChangeFeed.Text.Word
import ChangeFeed.Value.Literal

/-!
Style tags in the cells of a table.

A tag is a bracketed text that starts with a lower-case letter or one of a few signs. Tags leave
nothing in the text of a cell but a style for the run between them; all other brackets stay. A
closing tag needs an open one of its style, and a backslash in front of a tag makes it text. A tag
that names a handler is looked at when it is closed, and gives no style then. The arguments of a
handler stand behind an equals sign, as a name with arguments in parentheses or as arguments alone,
and have to be a literal.
-/

namespace ChangeFeed.Markup

/-- Why the tags of a text make no sense. -/
inductive Problem where
  /-- A closing tag has no open tag of its name. -/
  | unopened (tag : Text) (position : Nat)
  /-- A closing tag without a name comes where no tag is open. -/
  | nothingOpen (position : Nat)
  /-- The arguments of a handler are no expression, or one that is no literal. -/
  | handler (source parameters : Text) (r : Expression.Refusal)
  /-- A part of a colour is no number. -/
  | color (p : Numeral.Problem)
  /-- A value that is no text cannot be drawn. -/
  | notDrawn (v : Value)
  deriving DecidableEq, Repr

/-- The kind of error, as reports name it. -/
def Problem.kind : Problem → Text
  | color p => p.kind
  | notDrawn _ => "NotRenderableError"
  | _ => "MarkupError"

/-- The text of the error. -/
def Problem.message : Problem → Text
  | unopened tag position =>
    "closing tag '[" ++ tag ++ "]' at position " ++ Text.ofNat position ++
      " doesn't match any open tag"
  | nothingOpen position =>
    "closing tag '[/]' at position " ++ Text.ofNat position ++ " has nothing to close"
  | handler source parameters r =>
    "error parsing " ++
      (if r.isFault then Text.quoted source ++ " in " else []) ++ Text.quoted parameters ++ "; " ++
      r.message
  | color p => p.message
  | notDrawn v =>
    "Unable to get render width for " ++ v.literal ++
      "; a str, Segment, or object with __rich_console__ method is required"

/-- Whether a character can stand in the name of a handler. -/
def isHandlerChar (c : Char) : Bool := Text.isWord c || c == '.'

/-- The expression in the arguments of a handler: behind its name what stands in parentheses, and
all of them if they do not start with a name. -/
def handlerArguments (t : Text) : Text :=
  let t := Text.strip t
  let rest := t.dropWhile isHandlerChar
  if rest = [] then "()"
  else if rest.head? = some '(' ∧ rest.getLast? = some ')' ∧ '\n' ∉ rest then rest
  else t

/-- Why the expression in the arguments of a handler is no literal, if it is none. Blanks and tabs
in front of it do not count. -/
def handlerRefusal? (source : Text) : Option Expression.Refusal :=
  Expression.refusal? (source.dropWhile fun c => c == ' ' || c == '\t')

/-- A piece of a text with tags. -/
inductive Piece where
  | plain (t : Text)
  | tag (t : Text) (position : Nat)
  deriving DecidableEq, Repr

/-- Whether a tag can start with a character. -/
def startsTag (c : Char) : Bool :=
  Text.isAsciiLower c || c == '#' || c == '/' || c == '@'

/-- The tag that a text starts with, and what follows it. -/
def scanTag? : Text → Option (Text × Text)
  | '[' :: c :: t =>
    if startsTag c then
      match Text.cut? ']' t with
      | some (inner, rest) => if inner.contains '[' then none else some (c :: inner, rest)
      | none => none
    else none
  | _ => none

/-- The pieces of a text from a position on, as many as `fuel` allows; `before` is what was read
since the last tag, backwards. -/
def piecesFrom : Nat → Nat → Text → Text → List Piece
  | 0, _, before, _ => [.plain before.reverse]
  | _ + 1, _, before, [] => [.plain before.reverse]
  | fuel + 1, position, before, c :: t =>
    let slashes := ((c :: t).takeWhile (· == '\\')).length
    match scanTag? ((c :: t).drop slashes) with
    | none => piecesFrom fuel (position + 1) (c :: before) t
    | some (tag, rest) =>
      let kept := before.reverse ++ Text.fill (slashes / 2) '\\'
      let next := piecesFrom fuel (position + slashes + tag.length + 2) [] rest
      if slashes % 2 = 1 then .plain kept :: .plain ('[' :: tag ++ [']']) :: next
      else .plain kept :: .tag tag (position + slashes) :: next

/-- A text without the backslashes in front of brackets. -/
def unescaped : Text → Text
  | '\\' :: '[' :: t => '[' :: unescaped t
  | c :: t => c :: unescaped t
  | [] => []

/-- A tag that has been opened. -/
structure OpenTag where
  name : Text
  /-- What stands behind an equals sign, if there is one. -/
  parameters : Option Text
  /-- Where the run of the tag starts in the text that is left. -/
  start : Nat
  deriving DecidableEq, Repr

namespace OpenTag

/-- Whether a tag names a handler. -/
def isHandler (tag : OpenTag) : Bool := tag.name.head? == some '@'

/-- What is wrong with a tag that is closed, if something is. -/
def problem? (tag : OpenTag) : Option Problem :=
  match tag.parameters with
  | some (p :: ps) =>
    if tag.isHandler then
      let source := handlerArguments (p :: ps)
      (handlerRefusal? source).map (.handler source (p :: ps))
    else none
  | _ => none

/-- The run up to a place, in the style that the tag describes. -/
def span (tag : OpenTag) (stop : Nat) : Cell.Span :=
  ⟨tag.start, stop, tag.name ++ (tag.parameters.map (' ' :: ·)).getD []⟩

/-- The run of a tag that is closed at a place, if it has a style. -/
def closed (tag : OpenTag) (stop : Nat) : Except Problem (List Cell.Span) :=
  match tag.problem? with
  | some p => .error p
  | none => .ok (if tag.isHandler then [] else [tag.span stop])

end OpenTag

/-- The name of the style that a tag names. -/
def tagStyle (t : Text) : Except Problem Text := (styleName t).mapError .color

/-- The text that pieces leave behind `place` characters, and its runs, when some tags are open. -/
def styledOf (opened : List OpenTag) (place : Nat) : List Piece → Except Problem Cell.Styled
  | [] => .ok ⟨[], opened.map fun tag => tag.span place⟩
  | .plain t :: ps =>
    let t := Cell.clean (unescaped t)
    (styledOf opened (place + t.length) ps).map fun s => { s with text := t ++ s.text }
  | .tag t position :: ps =>
    match t.takeWhile (· != '=') with
    | '/' :: name =>
      if Text.strip name = [] then
        match opened with
        | [] => .error (.nothingOpen position)
        | tag :: rest => do
          let spans ← tag.closed place
          let s ← styledOf rest place ps
          return { s with spans := spans ++ s.spans }
      else do
        let style ← tagStyle (Text.strip name)
        match opened.find? fun tag => tag.name == style with
        | none => throw (.unopened t position)
        | some tag =>
          let spans ← tag.closed place
          let s ← styledOf (opened.eraseP fun tag => tag.name == style) place ps
          return { s with spans := spans ++ s.spans }
    | name => do
      let style ← tagStyle name
      styledOf (⟨style, (Text.cut? '=' t).map Prod.snd, place⟩ :: opened) place ps

/-- A cell without its tags, which leave their styles. -/
def read (t : Text) : Except Problem Cell.Styled := styledOf [] 0 (piecesFrom (t.length + 1) 0 [] t)

/-- Looks at a style that is drawn: the parts of its colours have to be numbers. A style that
describes nothing is not drawn, and nothing is wrong with it. -/
def checkStyle (style : Text) : Except Problem Unit :=
  match Style.ofName? style with
  | .error p => .error (.color p)
  | .ok _ => .ok ()

end ChangeFeed.Markup
