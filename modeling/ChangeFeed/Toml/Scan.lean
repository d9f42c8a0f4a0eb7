import ChangeFeed.Text.CodeRange
import ChangeFeed.Text.Numeral

/-!
The small parts of TOML: space, comments, strings and keys.

Each scanner is given a text at the place where its part starts, and returns what the part says and
the text behind it.
-/

namespace ChangeFeed.Toml

/-- A document that cannot be read. -/
inductive SyntaxProblem where
  /-- The text is no TOML. -/
  | malformed
  /-- A whole number has too many digits. -/
  | number (p : Numeral.Problem)
  /-- Too many values are open inside each other. -/
  | tooDeep
  deriving DecidableEq, Repr

/-- The text of the error. -/
def SyntaxProblem.message : SyntaxProblem → Text
  | malformed => "Invalid statement"
  | number p => p.message
  | tooDeep => "maximum recursion depth exceeded in comparison"

/-- Whether a character may stand between the parts of a statement. -/
def isSpace (c : Char) : Bool := c == ' ' || c == '\t'

/-- A text without the space at its start. -/
def skip (t : Text) : Text := t.dropWhile isSpace

/-- Whether a character may not stand in a comment or in a string of one line. -/
def isControl (c : Char) : Bool := (c.toNat < 0x20 && c != '\t') || c.toNat == 0x7f

/-- What follows a comment, which ends in front of a newline. -/
def skipComment : Text → Except SyntaxProblem Text
  | '#' :: t =>
    let rest := t.dropWhile (· != '\n')
    if (t.take (t.length - rest.length)).any isControl then .error .malformed else .ok rest
  | t => .ok t

/-- What follows a line whose statement has been read. -/
def endLine (t : Text) : Except SyntaxProblem Text := do
  match ← skipComment (skip t) with
  | [] => return []
  | '\n' :: t => return t
  | _ => throw .malformed

/-- What follows space, newlines and comments; as many lines as `fuel` allows. -/
def skipLines : Nat → Text → Except SyntaxProblem Text
  | 0, t => .ok t
  | fuel + 1, t => do
    let t ← skipComment (t.dropWhile fun c => isSpace c || c == '\n')
    match t with
    | '\n' :: t => skipLines fuel t
    | t => return t

/-- The character that hexadecimal digits stand for. -/
def charOfHex? (ds : Text) : Option Char := do
  let values ← ds.mapM Text.hexValue?
  let n := values.foldl (fun n d => 16 * n + d) 0
  if n < 0xd800 ∨ (0xe000 ≤ n ∧ n < 0x110000) then some (Char.ofNat n) else none

/-- The character that a letter behind a backslash stands for. -/
def shortEscape? (c : Char) : Option Char :=
  if c = 'b' then some '\x08'
  else if c = 't' then some '\t'
  else if c = 'n' then some '\n'
  else if c = 'f' then some '\x0c'
  else if c = 'r' then some '\r'
  else if c = '"' ∨ c = '\\' then some c
  else none

/-- The character that an escape behind its backslash stands for, and what follows. -/
def scanEscape : Text → Except SyntaxProblem (Char × Text)
  | 'u' :: t =>
    match charOfHex? (t.take 4) with
    | some c => if 4 ≤ t.length then .ok (c, t.drop 4) else .error .malformed
    | none => .error .malformed
  | 'U' :: t =>
    match charOfHex? (t.take 8) with
    | some c => if 8 ≤ t.length then .ok (c, t.drop 8) else .error .malformed
    | none => .error .malformed
  | c :: t =>
    match shortEscape? c with
    | some d => .ok (d, t)
    | none => .error .malformed
  | [] => .error .malformed

/-- A string of one line in double quotes, behind the opening quote. -/
def scanBasic : Nat → Text → Except SyntaxProblem (Text × Text)
  | 0, _ => .error .malformed
  | _ + 1, [] => .error .malformed
  | fuel + 1, c :: t =>
    if c = '"' then .ok ([], t)
    else if c = '\\' then do
      let (d, t) ← scanEscape t
      let (s, t) ← scanBasic fuel t
      return (d :: s, t)
    else if isControl c then .error .malformed
    else (scanBasic fuel t).map fun r => (c :: r.1, r.2)

/-- A string of one line in single quotes, behind the opening quote. -/
def scanLiteral (t : Text) : Except SyntaxProblem (Text × Text) :=
  match Text.cut? '\'' t with
  | some (s, t) => if s.any isControl then .error .malformed else .ok (s, t)
  | none => .error .malformed

/-- The quotes, at most two, that belong to a string in front of the three that close it, and what
follows these. -/
def closing (quote : Char) (t : Text) : Option (Text × Text) :=
  let n := (t.takeWhile (· == quote)).length
  if n < 3 then none
  else
    let extra := min (n - 3) 2
    some (Text.fill extra quote, t.drop (3 + extra))

/-- A string of several lines in double quotes, behind the opening quotes. -/
def scanBasicLines : Nat → Text → Except SyntaxProblem (Text × Text)
  | 0, _ => .error .malformed
  | _ + 1, [] => .error .malformed
  | fuel + 1, c :: t =>
    match closing '"' (c :: t) with
    | some r => .ok r
    | none =>
      if c = '\\' then
        let rest := t.dropWhile isSpace
        match rest with
        | '\n' :: _ => scanBasicLines fuel (rest.dropWhile fun d => isSpace d || d == '\n')
        | _ => do
          let (d, t) ← scanEscape t
          let (s, t) ← scanBasicLines fuel t
          return (d :: s, t)
      else if isControl c && c != '\n' then .error .malformed
      else (scanBasicLines fuel t).map fun r => (c :: r.1, r.2)

/-- A string of several lines in single quotes, behind the opening quotes. -/
def scanLiteralLines : Text → Except SyntaxProblem (Text × Text)
  | [] => .error .malformed
  | c :: t =>
    match closing '\'' (c :: t) with
    | some r => .ok r
    | none =>
      if isControl c && c != '\n' then .error .malformed
      else (scanLiteralLines t).map fun r => (c :: r.1, r.2)

/-- A text without one newline at its start. -/
def dropNewline : Text → Text
  | '\n' :: t => t
  | t => t

/-- A string of any kind, from its first quote on. -/
def scanString (t : Text) : Except SyntaxProblem (Text × Text) :=
  match t with
  | '"' :: '"' :: '"' :: t => scanBasicLines (t.length + 1) (dropNewline t)
  | '\'' :: '\'' :: '\'' :: t => scanLiteralLines (dropNewline t)
  | '"' :: t => scanBasic (t.length + 1) t
  | '\'' :: t => scanLiteral t
  | _ => .error .malformed

/-- One part of a key. -/
def scanKeyPart (t : Text) : Except SyntaxProblem (Text × Text) :=
  match t with
  | '"' :: t => scanBasic (t.length + 1) t
  | '\'' :: t => scanLiteral t
  | t =>
    match t.span fun c => Text.isAsciiLetter c || Text.isAsciiDigit c || c == '_' || c == '-' with
    | ([], _) => .error .malformed
    | r => .ok r

/-- The parts of a key with dots between them, as many as `fuel` allows. -/
def scanKey : Nat → Text → Except SyntaxProblem (List Text × Text)
  | 0, _ => .error .malformed
  | fuel + 1, t => do
    let (part, t) ← scanKeyPart t
    match skip t with
    | '.' :: t =>
      let (parts, t) ← scanKey fuel (skip t)
      return (part :: parts, t)
    | t => return ([part], t)

end ChangeFeed.Toml
