import ChangeFeed.Expression.Number
import ChangeFeed.Expression.Token
import ChangeFeed.Text.Identifier

/-!
The tokens of a text.

Blanks at the start of a line count, unless brackets are open or the line is blank. A fault ends the
tokens. Some faults are silent: a reader that does not come as far as them does not hear of them,
save that a bracket of an earlier line is left open.
-/

namespace ChangeFeed.Expression

/-- What ends the tokens of a text early. -/
structure Obstacle where
  fault : Fault
  silent : Bool
  /-- The innermost open bracket and its line. -/
  opened : Option (Char × Nat)
  deriving DecidableEq, Repr

/-- The tokens of a text. -/
structure Tokens where
  tokens : Array Token
  obstacle : Option Obstacle

/-- Where a scanner stands. -/
structure Scanner where
  rest : Text
  line : Nat
  /-- The open brackets and their lines, the innermost first. -/
  opened : List (Char × Nat)
  /-- The indentations of the lines that the present one belongs to, the innermost first: columns
  with tabs to every eighth column, and with tabs as wide as blanks. -/
  indents : List (Nat × Nat)
  /-- Whether a line starts. -/
  fresh : Bool
  /-- Tokens that are due before the next one is read. -/
  due : List Token.Kind
  tokens : Array Token

namespace Scanner

/-- The most brackets that may be open. -/
def maxLevel : Nat := 200

/-- The most indentations that may be open, with that of the first line. -/
def maxIndents : Nat := 100

/-- The scanner behind a part of the text that holds no line break. -/
def goTo (s : Scanner) (rest : Text) : Scanner := { s with rest }

/-- The scanner at the start of a line that follows a line break. The end of a text starts no
line. -/
def startLine (s : Scanner) (rest : Text) : Scanner :=
  { s with rest, line := if rest = [] then s.line else s.line + 1, fresh := true }

/-- The scanner behind a token. -/
def push (s : Scanner) (kind : Token.Kind) (text rest : Text) (meetsEnd : Bool) : Scanner :=
  { s with rest, tokens := s.tokens.push ⟨kind, text, s.line, s.opened.length, meetsEnd⟩ }

/-- What a scanner found out: where it stands now, or what ends the tokens. -/
inductive Step where
  | more (s : Scanner)
  | finished (s : Scanner)
  | raised (f : Fault)
  | silent (f : Fault)

/-- What the end of the text means where more has to come. -/
def cutOff (s : Scanner) : Fault :=
  match s.opened with
  | (c, _) :: _ => .unclosed c
  | [] => .line .cutOff

/-- The text behind a backslash that joins two lines. -/
def continued (s : Scanner) (t : Text) : Except Fault Scanner :=
  match t with
  | ['\n'] => .error s.cutOff
  | '\n' :: u => .ok { s with rest := u, line := s.line + 1 }
  | _ => .error (.line .continuation)

/-- The columns of the first character of a line that is no blank: as tabs go to every eighth
column, as they are as wide as blanks, and where the first backslash was, if not at the start. -/
def columns (s : Scanner) : Nat → Nat → Nat → Nat → Except Fault (Scanner × Nat × Nat)
  | 0, column, narrow, _ => .ok (s, column, narrow)
  | fuel + 1, column, narrow, joint =>
    match s.rest with
    | ' ' :: t => columns (s.goTo t) fuel (column + 1) (narrow + 1) joint
    | '\t' :: t => columns (s.goTo t) fuel ((column / 8 + 1) * 8) (narrow + 1) joint
    | '\x0c' :: t => columns (s.goTo t) fuel 0 0 joint
    | '\\' :: t =>
      match s.continued t with
      | .error f => .error f
      | .ok next => columns next fuel column narrow (if joint = 0 then column else joint)
    | _ => .ok (if joint = 0 then (s, column, narrow) else (s, joint, joint))

/-- The scanner behind the indentation of a line that is not blank. -/
def indented (s : Scanner) (column narrow : Nat) : Step :=
  match s.indents with
  | [] => .more s
  | (c, n) :: outer =>
    if column = c then
      if narrow = n then .more s else .silent (.line .tabs)
    else if c < column then
      if maxIndents ≤ s.indents.length then .silent (.line .tooDeep)
      else if narrow ≤ n then .silent (.line .tabs)
      else .more { s with indents := (column, narrow) :: s.indents, due := [.indent] }
    else
      let left := ((c, n) :: outer).dropWhile fun i => column < i.1
      if left.head?.map Prod.fst ≠ some column then .silent (.line .dedent)
      else if left.head?.map Prod.snd ≠ some narrow then .silent (.line .tabs)
      else .more { s with
        indents := left, due := List.replicate (s.indents.length - left.length) .dedent }

/-- The scanner behind the blanks at the start of a line. A blank line is left out. -/
def enterLine (s : Scanner) : Step :=
  match columns { s with fresh := false } (s.rest.length + 1) 0 0 0 with
  | .error f => .silent f
  | .ok (next, column, narrow) =>
    if next.rest.head?.any fun c => c == '#' || c == '\n' then
      match next.rest.dropWhile (· != '\n') with
      | '\n' :: t => .more (next.startLine t)
      | t => .more (next.goTo t)
    else if next.opened = [] then next.indented column narrow
    else .more next

/-- The text behind the quotes that close a text in quotes, when some of them were read. -/
def dropQuoted (quote : Char) (size : Nat) : Nat → Text → Option Text
  | _, [] | _, ['\\'] => none
  | _, '\\' :: _ :: t => dropQuoted quote size 0 t
  | read, c :: t =>
    if c = quote then if read + 1 = size then some t else dropQuoted quote size (read + 1) t
    else if c = '\n' ∧ size = 1 then none
    else dropQuoted quote size 0 t

/-- How many line breaks of a text are followed by more, or by `rest`. -/
def lineBreaks (t rest : Text) : Nat :=
  t.count '\n' - if rest = [] ∧ t.getLast? = some '\n' then 1 else 0

/-- The part of a text in single quotes that was read when it was found not to be closed. -/
def unclosedPart : Text → Text
  | [] => []
  | ['\\'] => ['\\']
  | '\\' :: c :: t => '\\' :: c :: unclosedPart t
  | c :: t => if c = '\n' then [] else c :: unclosedPart t

/-- The scanner behind a text in quotes, which follows the letters `mark`. -/
def quoted (s : Scanner) (mark : Text) (quote : Char) (t : Text) : Step :=
  let size := if Text.startsWith [quote, quote] t then 3 else 1
  let body := t.drop (size - 1)
  match dropQuoted quote size 0 body with
  | some rest =>
    let text := mark ++ quote :: t.take (t.length - rest.length)
    let next := s.push .quoted text rest false
    .more { next with line := s.line + lineBreaks text rest }
  | none =>
    let part := if size = 3 then body else unclosedPart body
    .raised (.unterminated (size == 3) (s.line + lineBreaks part (body.drop part.length)))

/-- The scanner behind a name, of which every character is looked at. -/
def named (s : Scanner) (word rest : Text) : Step :=
  let wrong? := match word with
    | c :: t =>
      if Text.isIdentifierStart c then t.find? fun c => !Text.isIdentifierPart c else some c
    | [] => none
  match wrong? with
  | some c => .raised (.character c)
  | none => .more (s.push (wordKind word) word rest (rest == []))

/-- The bracket that closes another one. -/
def closingOf (c : Char) : Char := if c = '(' then ')' else if c = '[' then ']' else '\x7d'

/-- The scanner behind a sign of one character. -/
def sign (s : Scanner) (c : Char) (t : Text) : Step :=
  if c = '(' ∨ c = '[' ∨ c = '\x7b' then
    if maxLevel ≤ s.opened.length then .raised .tooManyBrackets
    else .more ({ s with opened := (c, s.line) :: s.opened }.push .sign [c] t (t == []))
  else if c = ')' ∨ c = ']' ∨ c = '\x7d' then
    match s.opened with
    | [] => .raised (.unmatched c)
    | (o, line) :: outer =>
      if closingOf o = c then .more ({ s with opened := outer }.push .sign [c] t (t == []))
      else .raised (.mismatched o c (if line = s.line then none else some line))
  else if Text.isPrintable c then .more (s.push .sign [c] t (t == []))
  else .raised (.character c)

/-- The scanner one step further. -/
def step (s : Scanner) : Step :=
  match s.due with
  | kind :: due => .more ({ s with due }.push kind [] s.rest (s.rest == []))
  | [] =>
    if s.fresh then s.enterLine
    else
      match s.rest with
      | [] =>
        if s.opened = [] then .finished (s.push .finish [] [] true) else .silent s.cutOff
      | c :: t =>
        if c = ' ' ∨ c = '\t' ∨ c = '\x0c' then .more (s.goTo t)
        else if c = '#' then .more (s.goTo (t.dropWhile (· != '\n')))
        else if c = '\n' then
          .more ((if s.opened = [] then s.push .newline [] t false else s).startLine t)
        else if c = '\\' then
          match s.continued t with
          | .error f => .silent f
          | .ok next => .more next
        else if c = '\'' ∨ c = '"' then s.quoted [] c t
        else if Text.isAsciiDigit c ∨ (c = '.' ∧ t.head?.any Text.isAsciiDigit) then
          match Number.drop s.rest with
          | .error f => .raised f
          | .ok rest =>
            .more (s.push .number (s.rest.take (s.rest.length - rest.length)) rest (rest == []))
        else if isNameChar c then
          let (word, rest) := s.rest.span isNameChar
          match rest with
          | q :: u =>
            if (q = '\'' ∨ q = '"') ∧ isQuoteMark word then s.quoted word q u
            else s.named word rest
          | [] => s.named word rest
        else
          match longSigns.findSome? fun l =>
              (Text.rest? l.toList s.rest).map fun rest => (l.toList, rest) with
          | some (text, rest) => .more (s.push .sign text rest (rest == [] && text.length < 3))
          | none => s.sign c t

/-- The tokens that a scanner finds in so many steps. -/
def run : Nat → Scanner → Tokens
  | 0, s => ⟨s.tokens, none⟩
  | fuel + 1, s =>
    match s.step with
    | .more next => run fuel next
    | .finished last => ⟨last.tokens, none⟩
    | .raised f => ⟨s.tokens, some ⟨f, false, s.opened.head?⟩⟩
    | .silent f => ⟨s.tokens, some ⟨f, true, s.opened.head?⟩⟩

end Scanner

/-- The tokens of a text whose first line has the given number. -/
def tokensOf (line : Nat) (t : Text) : Tokens :=
  Scanner.run (4 * t.length + 8) ⟨t, line, [], [(0, 0)], true, [], #[]⟩

end ChangeFeed.Expression
