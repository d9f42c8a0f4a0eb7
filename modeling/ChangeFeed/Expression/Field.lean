import ChangeFeed.Expression.Escape

/-!
The fields of a formatted text.

A field stands in braces: an expression, then perhaps an equals sign, a conversion and a format. A
format may hold fields of its own, but no deeper ones. Two braces of a kind stand for one outside
of formats.
-/

namespace ChangeFeed.Expression.Field

/-- A part of a formatted text without fields. -/
structure Literal where
  text : Text
  rest : Text
  /-- Whether the part ended with two braces for one. -/
  doubled : Bool

/-- One more character in front of a part. -/
def Literal.push (c : Char) (l : Literal) : Literal := { l with text := c :: l.text }

/-- The end of a name in braces, as far as it goes, and what follows. -/
def dropName : Text → Text × Text
  | [] => ([], [])
  | c :: t =>
    if c = '\x7d' then ([c], t) else
    let (word, rest) := dropName t
    (c :: word, rest)

/-- The part of a formatted text up to the next field; `depth` counts the formats around it. -/
def literal (raw : Bool) (depth : Nat) : Nat → Text → Except Fault Literal
  | 0, t => .ok ⟨[], t, false⟩
  | _, [] => .ok ⟨[], [], false⟩
  | fuel + 1, c :: t =>
    if c = '\\' ∧ !raw then
      match t with
      | [] => .ok ⟨[c], [], false⟩
      | 'N' :: '\x7b' :: u =>
        let (word, rest) := dropName u
        (literal raw depth fuel rest).map fun l =>
          { l with text := c :: 'N' :: '\x7b' :: word ++ l.text }
      | 'N' :: d :: u => (literal raw depth fuel u).map fun l => ((l.push d).push 'N').push c
      | d :: u =>
        if d = '\x7b' ∨ d = '\x7d' then (brace d u).map (·.push c)
        else (literal raw depth fuel u).map fun l => (l.push d).push c
    else if c = '\x7b' ∨ c = '\x7d' then brace c t
    else (literal raw depth fuel t).map (·.push c)
where
  brace (c : Char) (t : Text) : Except Fault Literal :=
    if depth = 0 ∧ t.head? = some c then .ok ⟨[c], t.drop 1, true⟩
    else if depth = 0 ∧ c = '\x7d' then .error (.field .singleBrace)
    else .ok ⟨[], c :: t, false⟩

/-- The quotes that an expression stands in: the quote, and how many of them close it. -/
abbrev Quotes := Option (Char × Nat)

/-- What follows the expression of a field; `opened` holds its open brackets, the innermost
first. -/
def expressionEnd : Nat → Quotes → List Char → Text → Except Fault Text
  | 0, _, _, t => .ok t
  | _, some _, _, [] => .error (.field .unterminated)
  | _, none, o :: _, [] => .error (.field (.unmatched o))
  | _, none, [], [] => .error (.field .unclosed)
  | fuel + 1, quotes, opened, c :: t =>
    if c = '\\' then .error (.field .backslash)
    else
      match quotes with
      | some (q, n) =>
        if c ≠ q then expressionEnd fuel quotes opened t
        else if n = 1 then expressionEnd fuel none opened t
        else if Text.startsWith [q, q] t then expressionEnd fuel none opened (t.drop 2)
        else expressionEnd fuel quotes opened t
      | none =>
        if c = '\'' ∨ c = '"' then
          if Text.startsWith [c, c] t then expressionEnd fuel (some (c, 3)) opened (t.drop 2)
          else expressionEnd fuel (some (c, 1)) opened t
        else if c = '[' ∨ c = '\x7b' ∨ c = '(' then
          if 200 ≤ opened.length then .error (.field .tooManyBrackets)
          else expressionEnd fuel none (c :: opened) t
        else if c = '#' then .error (.field .comment)
        else if opened = [] ∧ "!:\x7d=><".toList.contains c then
          if "!=<>".toList.contains c ∧ t.head? = some '=' then
            expressionEnd fuel none opened (t.drop 1)
          else if c = '>' ∨ c = '<' then expressionEnd fuel none opened t
          else .ok (c :: t)
        else if c = ']' ∨ c = '\x7d' ∨ c = ')' then
          match opened with
          | [] => .error (.field (.unmatched c))
          | o :: outer =>
            if (o = '(' ∧ c = ')') ∨ (o = '[' ∧ c = ']') ∨ (o = '\x7b' ∧ c = '\x7d') then
              expressionEnd fuel none outer t
            else .error (.field (.mismatched o c))
        else expressionEnd fuel none opened t

/-- Whether a character counts for nothing in front of an expression. -/
def isSpace (c : Char) : Bool := c == ' ' || c == '\t' || c == '\n' || c == '\x0c'

/-- What follows the conversion of a field, if it has one. -/
def dropConversion (t : Text) : Except Fault Text :=
  match t with
  | ['!'] => .error (.field .unclosed)
  | '!' :: c :: u => if "sra".toList.contains c then .ok u else .error (.field .conversion)
  | t => .ok t

/-- What follows the equals sign of a field, if it has one. -/
def dropEquals (t : Text) : Text :=
  match t with
  | '=' :: u => u.dropWhile fun c => isSpace c || c == '\r' || c == '\x0b'
  | t => t

section

/- How a fault of the text itself is told, and how an expression that is followed by a text is
looked at. -/
variable (tell : Fault → Fault) (look : Text → Text → Except Fault Unit)

/-- Looks at the expression of a field. -/
def checkExpression (e rest : Text) : Except Fault Unit :=
  if e.all isSpace then
    match rest with
    | '\x7d' :: _ | [] => .error (tell (.field .empty))
    | c :: _ => .error (tell (.field (.emptyBefore c)))
  else look e rest

mutual

/-- What follows a formatted text: nothing, or the brace behind a format. -/
def check (raw : Bool) : Nat → Nat → Text → Except Fault Text
  | 0, _, t => .ok t
  | fuel + 1, depth, t => do
    let part ← (literal raw depth (t.length + 1) t).mapError tell
    if !raw then (Escape.check part.text).mapError tell
    if part.doubled then check raw fuel depth part.rest
    else
      match part.rest with
      | '\x7b' :: u => check raw fuel depth (← checkField raw fuel depth u)
      | rest =>
        if depth ≠ 0 ∧ rest = [] then throw (tell (.field .unclosed))
        return rest

/-- What follows a field, behind its opening brace. -/
def checkField (raw : Bool) : Nat → Nat → Text → Except Fault Text
  | 0, _, t => .ok t
  | fuel + 1, depth, t => do
    if 2 ≤ depth then throw (tell (.field .tooDeep))
    let rest ← (expressionEnd (t.length + 1) none [] t).mapError tell
    checkExpression tell look (t.take (t.length - rest.length)) rest
    let rest ← (dropConversion (dropEquals rest)).mapError tell
    let rest ← match rest with
      | [':'] => throw (tell (.field .unclosed))
      | ':' :: u => check raw fuel (depth + 1) u
      | rest => pure rest
    match rest with
    | '\x7d' :: u => return u
    | _ => throw (tell (.field .unclosed))

end

end

end ChangeFeed.Expression.Field
