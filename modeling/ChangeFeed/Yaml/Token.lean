import ChangeFeed.Yaml.Mark
import ChangeFeed.Yaml.Scan

/-!
Tokens of a document.

Blocks have no brackets, so their starts and ends are read off the indentation. A key in front of
its colon is known only when the colon comes: until then its place is kept as a candidate, which a
new line or more than 1024 characters put out of question. At the first column of a block a
candidate has to become a key.
-/

namespace ChangeFeed.Yaml

/-- A token. -/
inductive Token where
  | directive (d : Directive)
  | documentStart
  | documentEnd
  /-- The start of a list in a block. -/
  | items
  /-- The start of a table in a block. -/
  | entries
  /-- The end of a list or a table in a block. -/
  | dedent
  | openList
  | closeList
  | openTable
  | closeTable
  | comma
  /-- The mark of an item. -/
  | dash
  | key
  | colon
  | alias (name : Text)
  | anchor (name : Text)
  | tag (mark : TagMark)
  | scalar (plain : Bool) (t : Text)
  deriving DecidableEq, Repr

/-- A place where a key may have started. -/
structure Candidate where
  /-- The number of tokens in front of it. -/
  number : Nat
  place : Place
  /-- Whether a colon has to follow. -/
  required : Bool
  deriving DecidableEq, Repr

/-- The most characters between the start of a key and its colon. -/
def maxKeyReach : Nat := 1024

/-- Whether a candidate cannot be the key of a colon at a place. -/
def Candidate.isOver (c : Candidate) (p : Place) : Bool :=
  c.place.line != p.line || maxKeyReach < p.index - c.place.index

/-- A reading of tokens: the place, the indentation, and what may come next. -/
structure Lexer where
  cursor : Cursor
  /-- The column of the block that is being read. -/
  indent : Int := -1
  /-- The columns of the blocks around it, innermost first. -/
  outer : List Int := []
  /-- Whether a key may start here. -/
  ready : Bool := true
  candidate : Option Candidate := none
  /-- The candidates outside the brackets that are open, innermost first. -/
  enclosing : List (Option Candidate) := []
  /-- The tokens so far, the last one first. -/
  tokens : List Token := []
  deriving DecidableEq, Repr

namespace Lexer

/-- Whether brackets or braces are open. -/
def inFlow (s : Lexer) : Bool := !s.enclosing.isEmpty

/-- The reading with one more token. -/
def emit (t : Token) (s : Lexer) : Lexer := { s with tokens := t :: s.tokens }

/-- The reading with a token put behind the first `number` ones. -/
def insert (number : Nat) (t : Token) (s : Lexer) : Lexer :=
  { s with tokens := s.tokens.insertIdx (s.tokens.length - number) t }

/-- The reading that goes on behind as many characters. -/
def advance (n : Nat) (s : Lexer) : Lexer := { s with cursor := s.cursor.advance n }

/-- A candidate that may still become a key. -/
def stillOpen (p : Place) : Option Candidate → Except SyntaxProblem (Option Candidate)
  | none => .ok none
  | some c =>
    if c.isOver p then if c.required then .error .noColon else .ok none else .ok (some c)

/-- The reading without the candidates that are over. -/
def dropOver (s : Lexer) : Except SyntaxProblem Lexer := do
  let candidate ← stillOpen s.cursor.toPlace s.candidate
  let enclosing ← s.enclosing.mapM (stillOpen s.cursor.toPlace)
  return { s with candidate, enclosing }

/-- The reading without its candidate. -/
def forget (s : Lexer) : Except SyntaxProblem Lexer :=
  if s.candidate.any Candidate.required then .error .noColon
  else .ok { s with candidate := none }

/-- The reading with a candidate at its place, if a key may start there. -/
def remember (s : Lexer) : Except SyntaxProblem Lexer :=
  if s.ready then do
    let s ← s.forget
    let required := !s.inFlow && s.indent == s.cursor.column
    return { s with candidate := some ⟨s.tokens.length, s.cursor.toPlace, required⟩ }
  else .ok s

/-- How many blocks end in front of a column, the column of the block that goes on, and those of the
blocks around it. -/
def unwound (column : Int) : Int → List Int → Nat × Int × List Int
  | indent, [] => (0, indent, [])
  | indent, o :: outer =>
    if column < indent then
      let r := unwound column o outer
      (r.1 + 1, r.2)
    else (0, indent, o :: outer)

/-- The reading behind the ends of the blocks that end in front of a column. -/
def unwind (column : Int) (s : Lexer) : Lexer :=
  if s.inFlow then s
  else
    let (count, indent, outer) := unwound column s.indent s.outer
    { s with indent, outer, tokens := List.replicate count .dedent ++ s.tokens }

/-- The reading inside a block at a column, which starts with a token behind the first `number` ones
if it is a new one. -/
def openBlock (number : Nat) (t : Token) (column : Nat) (s : Lexer) : Lexer :=
  if s.inFlow = false ∧ s.indent < column then
    { s with indent := column, outer := s.indent :: s.outer }.insert number t
  else s

/-- Reads an opening bracket. -/
def opening (t : Token) (s : Lexer) : Except SyntaxProblem Lexer := do
  let s ← s.remember
  return ({ s with
    candidate := none, enclosing := s.candidate :: s.enclosing, ready := true }.emit t).advance 1

/-- Reads a closing bracket. -/
def closing (t : Token) (s : Lexer) : Except SyntaxProblem Lexer := do
  let s ← s.forget
  match s.enclosing with
  | [] => throw .misplaced
  | candidate :: enclosing =>
    return ({ s with candidate, enclosing, ready := false }.emit t).advance 1

/-- Reads a comma. -/
def comma (s : Lexer) : Except SyntaxProblem Lexer := do
  return ({ ← s.forget with ready := true }.emit .comma).advance 1

/-- Reads the mark of an item. -/
def dash (s : Lexer) : Except SyntaxProblem Lexer := do
  if !s.inFlow && !s.ready then throw .misplaced
  let s := s.openBlock s.tokens.length .items s.cursor.column
  return ({ ← s.forget with ready := true }.emit .dash).advance 1

/-- Reads the mark of a key. -/
def key (s : Lexer) : Except SyntaxProblem Lexer := do
  if !s.inFlow && !s.ready then throw .misplaced
  let s := s.openBlock s.tokens.length .entries s.cursor.column
  return ({ ← s.forget with ready := !s.inFlow }.emit .key).advance 1

/-- Reads a colon: behind a candidate, which becomes its key, or behind a marked key. -/
def colon (s : Lexer) : Except SyntaxProblem Lexer :=
  match s.candidate with
  | some c =>
    let s := { s with candidate := none, ready := false }.insert c.number .key
    .ok (((s.openBlock c.number .entries c.place.column).emit .colon).advance 1)
  | none =>
    if !s.inFlow && !s.ready then .error .misplaced
    else
      let s := s.openBlock s.tokens.length .entries s.cursor.column
      .ok (({ s with ready := !s.inFlow }.emit .colon).advance 1)

/-- Reads a directive or the mark of a document, in front of which all blocks end. -/
def outside (read : Cursor → Except SyntaxProblem (Token × Cursor)) (s : Lexer) :
    Except SyntaxProblem Lexer := do
  let s ← (s.unwind (-1)).forget
  let (t, cursor) ← read s.cursor
  return { s with cursor, ready := false }.emit t

/-- Reads what may be a key or may stand in front of one. -/
def leading (read : Cursor → Except SyntaxProblem (Token × Cursor)) (s : Lexer) :
    Except SyntaxProblem Lexer := do
  let s ← s.remember
  let (t, cursor) ← read s.cursor
  return { s with cursor, ready := false }.emit t

/-- Reads a plain scalar, behind which a key may start if it ends in a new line. -/
def plain (s : Lexer) : Except SyntaxProblem Lexer := do
  let s ← s.remember
  let fuel := s.cursor.rest.length + 1
  let (t, ready, cursor) := scanPlain s.inFlow (s.indent + 1).toNat fuel false s.cursor
  return { s with cursor, ready }.emit (.scalar true t)

/-- Reads a block scalar. -/
def block (folded : Bool) (s : Lexer) : Except SyntaxProblem Lexer := do
  let s ← s.forget
  let (t, cursor) ← scanBlock folded (max (s.indent + 1) 1).toNat (s.cursor.advance 1)
  return { s with cursor, ready := true }.emit (.scalar false t)

/-- The token in front of a text in quotes, and the place behind. -/
def quoted (double : Bool) (cur : Cursor) : Except SyntaxProblem (Token × Cursor) :=
  (scanQuoted double (cur.rest.length + 1) (cur.advance 1)).map fun r => (.scalar false r.1, r.2)

/-- Reads the token that starts with the character `c`, which `t` follows. -/
def read (c : Char) (t : Text) (s : Lexer) : Except SyntaxProblem Lexer :=
  let atStart := s.cursor.column == 0
  let standsAlone := gapNext t
  if c = '%' ∧ atStart then
    s.outside fun cur => (scanDirective (cur.advance 1)).map fun r => (.directive r.1, r.2)
  else if atStart ∧ isDocumentMark (c :: t) then
    s.outside fun cur => .ok (if c = '-' then .documentStart else .documentEnd, cur.advance 3)
  else if c = '[' then s.opening .openList
  else if c = '\x7b' then s.opening .openTable
  else if c = ']' then s.closing .closeList
  else if c = '\x7d' then s.closing .closeTable
  else if c = ',' then s.comma
  else if c = '-' ∧ standsAlone then s.dash
  else if c = '?' ∧ (s.inFlow ∨ standsAlone) then s.key
  else if c = ':' ∧ (s.inFlow ∨ standsAlone) then s.colon
  else if c = '*' then
    s.leading fun cur => (scanAnchor (cur.advance 1)).map fun r => (.alias r.1, r.2)
  else if c = '&' then
    s.leading fun cur => (scanAnchor (cur.advance 1)).map fun r => (.anchor r.1, r.2)
  else if c = '!' then s.leading fun cur => (scanTag cur).map fun r => (.tag r.1, r.2)
  else if (c = '|' ∨ c = '>') ∧ s.inFlow = false then s.block (c == '>')
  else if c = '\'' ∨ c = '"' then s.leading (quoted (c == '"'))
  else if startsPlain s.inFlow c t then s.plain
  else .error .misplaced

/-- The reading in front of the next token. -/
def toNext (s : Lexer) : Except SyntaxProblem Lexer := do
  let (broken, cursor) := skip s.cursor
  let s ← { s with cursor, ready := s.ready || (broken && !s.inFlow) }.dropOver
  return s.unwind cursor.column

/-- The tokens of a reading that is at the end. -/
def finish (s : Lexer) : Except SyntaxProblem (List Token) := do
  return (← (s.unwind (-1)).forget).tokens.reverse

/-- The tokens from a reading on, as many as `fuel` allows. -/
def run : Nat → Lexer → Except SyntaxProblem (List Token)
  | 0, _ => .error .misplaced
  | fuel + 1, s => do
    let s ← s.toNext
    match s.cursor.rest with
    | [] => s.finish
    | c :: t => run fuel (← s.read c t)

end Lexer

/-- The tokens of a document. -/
def tokensOf (t : Text) : Except SyntaxProblem (List Token) :=
  Lexer.run (t.length + 1) { cursor := .start t }

end ChangeFeed.Yaml
