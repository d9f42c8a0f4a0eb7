import ChangeFeed.Expression.Basic
import ChangeFeed.Expression.Field
import ChangeFeed.Expression.Token

/-!
Texts in quotes, which are put together when they stand side by side.

Letters in front of the quotes say whether a backslash is only a character, whether the text is one
of bytes, and whether it has fields.
-/

namespace ChangeFeed.Expression

/-- A text in quotes. -/
structure Quotation where
  raw : Bool
  bytes : Bool
  formatted : Bool
  body : Text
  deriving DecidableEq, Repr

namespace Quotation

/-- The text that stands in quotes in a token. -/
def ofText (t : Text) : Quotation :=
  let mark := (t.takeWhile fun c => c != '\'' && c != '"').map Char.toLower
  let quoted := t.drop mark.length
  let size := if Text.startsWith (quoted.take 1 ++ quoted.take 1) (quoted.drop 1) then 3 else 1
  { raw := mark.contains 'r'
    bytes := mark.contains 'b'
    formatted := mark.contains 'f'
    body := (quoted.drop size).take (quoted.length - 2 * size) }

section

/- How a fault of the text itself is told, and how an expression in a line is looked at. -/
variable (tell : Fault → Fault) (look : Nat → Text → Except Fault Unit)

/-- Looks at a text in quotes that starts in a line. -/
def check (line : Nat) (q : Quotation) : Except Fault Unit :=
  if q.formatted then
    let lineOf (e rest : Text) :=
      line + (q.body.take (q.body.length - rest.length - e.length)).count '\n'
    (Field.check tell (fun e rest => look (lineOf e rest) e) q.raw (2 * q.body.length + 4) 0
      q.body).map fun _ => ()
  else if q.bytes then (Escape.checkBytes q.raw q.body).mapError tell
  else if q.raw then .ok ()
  else (Escape.check q.body).mapError tell

/-- Looks at texts in quotes, which all are texts of bytes or all are not. The fields of a text come
after that. -/
def checkAll : Option Bool → List Token → Except Fault Unit
  | _, [] => .ok ()
  | bytes, t :: ts => do
    let q := ofText t.text
    if !q.formatted then q.check tell look t.line
    if bytes.any (· != q.bytes) then throw (tell .mixedTexts)
    if q.formatted then q.check tell look t.line
    checkAll (some q.bytes) ts

/-- The text that texts in quotes side by side make. -/
def read (ts : List Token) : Except Fault Expression := do
  checkAll tell look none ts
  let qs := ts.map fun t => ofText t.text
  if qs.any formatted then return .formatted
  else return .constant (if qs.any bytes then .bytes else .text)

end

end Quotation

end ChangeFeed.Expression
