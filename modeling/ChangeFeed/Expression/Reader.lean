import ChangeFeed.Expression.Grammar
import ChangeFeed.Expression.Matching
import ChangeFeed.Expression.Quotation

/-!
Expressions in texts.

A text is read twice when it is no expression: first without looking for faults, then with. A fault
of a token that the reader did not come to counts before a fault in the order of the tokens, and so
does a bracket that an earlier line leaves open. A fault in a field of a text is told as one.
-/

namespace ChangeFeed.Expression

/-- What a fault is told as, in a text of its own or in a field. -/
def tell (inField : Bool) (f : Fault) : Fault := if inField then .inField f else f

/-- The result of matching a rule. -/
abbrev Attempt := EStateM.Result Stop (Matcher Rule) (Option Node)

namespace Tokens

/-- A matching that is allowed to take this many steps in a row. -/
def steps (ts : Tokens) : Nat := 100000 + 100 * ts.tokens.size

/-- The first matching of a rule, or a second one which looks for faults; `seen` tokens were looked
at before. -/
def attempt (ts : Tokens) (read : List Token → Outcome) (start : Rule) (complains : Bool)
    (seen : Nat) : Attempt :=
  (Match.rule (grammar read) ts ts.steps 0 start).run
    ⟨0, seen, complains, Array.replicate (ts.tokens.size + 1) []⟩

/-- The last of some tokens that were looked at. -/
def last? (ts : Tokens) (seen : Nat) : Option Token := ts.tokens[seen - 1]?

/-- The fault that counts before another one, when so many tokens were looked at. -/
def foremost (ts : Tokens) (inField : Bool) (seen : Nat) (f : Fault) : Fault :=
  match ts.obstacle with
  | none => f
  | some o =>
    if !o.silent then o.fault
    else
      match o.opened, ts.last? seen with
      | some (c, line), some t => if line < t.line then tell inField (.unclosed c) else f
      | _, _ => f

/-- The fault that stopped a matching. -/
def faultOf (ts : Tokens) (inField : Bool) (seen : Nat) : Stop → Fault
  | .obstacle =>
    match ts.obstacle with
    | some o => if o.silent then tell inField o.fault else o.fault
    | none => .disorder
  | .fault f => orForemost (tell inField f)
  | .told .tooDeep => .tooDeep
  | .told f => orForemost f
  | .tooDeep => .tooDeep
where
  orForemost (f : Fault) : Fault :=
    if (ts.last? seen).any Token.meetsEnd then f else ts.foremost inField seen f

/-- The fault of tokens in which no fault is found, when so many were looked at in the first
matching, and in both. -/
def disorder (ts : Tokens) (inField : Bool) (first both : Nat) : Fault :=
  match (ts.last? first).map Token.kind with
  | some .indent => tell inField (.line .indent)
  | some .dedent => tell inField (.line .unindent)
  | _ => ts.foremost inField both (tell inField .disorder)

/-- The expression that tokens make. -/
def expression (ts : Tokens) (read : List Token → Outcome) (inField : Bool) :
    Except Fault Expression :=
  let start : Rule := if inField then .embedded else .whole
  match ts.attempt read start false 0 with
  | .error stop m => .error (ts.faultOf inField m.seen stop)
  | .ok (some n) _ => .ok n.expression
  | .ok none m =>
    match ts.attempt read start true m.seen with
    | .error stop m => .error (ts.faultOf inField m.seen stop)
    | .ok _ both => .error (ts.disorder inField m.seen both.seen)

end Tokens

/-- The expression in a text whose first line has a number; fields of texts may be nested as deeply
as `fuel` allows. -/
def readFrom : Nat → Bool → Nat → Text → Except Fault Expression
  | 0, _, _, _ => .error .tooDeep
  | fuel + 1, inField, line, t =>
    let look (line : Nat) (e : Text) : Except Fault Unit :=
      (readFrom fuel true line ('(' :: e ++ ")\n".toList)).map fun _ => ()
    let read (ts : List Token) : Outcome :=
      match Quotation.read (tell inField) look ts with
      | .ok e => .node (.tree e)
      | .error f => .told f
    (tokensOf line t).expression read inField

/-- A text whose lines all end with a line feed. -/
def lineFeeds : Text → Text
  | '\r' :: '\n' :: t => '\n' :: lineFeeds t
  | c :: t => (if c = '\r' then '\n' else c) :: lineFeeds t
  | [] => []

/-- The expression in a text. -/
def ofText? (t : Text) : Except Fault Expression := readFrom (t.length + 1) false 1 (lineFeeds t)

end ChangeFeed.Expression
