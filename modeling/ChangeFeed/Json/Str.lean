import ChangeFeed.Json.Problem
import ChangeFeed.Text.CodePoint
import ChangeFeed.Text.CodeRange
import ChangeFeed.Text.Numeral

/-!
Strings of JSON.

Control characters, the quote and the backslash are always escaped, and on request everything
outside printable ASCII; a character beyond 16 bits is then escaped as two halves. Reading undoes
both ways of writing. The escape of a half that is not followed by the other one stands for that
half.
-/

namespace ChangeFeed.Json

/-- Why reading cannot go on: a fault in front of what is left of the text, a number that is too
long, or a container that is too deep inside others. -/
inductive Stuck where
  | fault (f : Fault) (rest : Text)
  | number (p : Numeral.Problem)
  | tooDeep (c : Container)
  deriving DecidableEq, Repr

/-- The number that four hexadecimal digits stand for. -/
def quad? (a b c d : Char) : Option Nat := do
  let a ← Text.hexValue? a
  let b ← Text.hexValue? b
  let c ← Text.hexValue? c
  let d ← Text.hexValue? d
  return 4096 * a + 256 * b + 16 * c + d

/-- Whether a number is the first half of a character beyond 16 bits. -/
def isHighHalf (n : Nat) : Bool := 0xd800 ≤ n && n < 0xdc00

/-- Whether a number is the second half of a character beyond 16 bits. -/
def isLowHalf (n : Nat) : Bool := 0xdc00 ≤ n && n < 0xe000

/-- What codes stand for; two halves that follow each other are one character. -/
def pointsOfCodes : List Nat → CodePoints
  | [] => []
  | [n] => [.ofCode n]
  | n :: m :: ns =>
    if isHighHalf n && isLowHalf m then
      .char (Char.ofNat (0x10000 + (n - 0xd800) * 1024 + (m - 0xdc00))) :: pointsOfCodes ns
    else .ofCode n :: pointsOfCodes (m :: ns)

/-- The character that a letter behind a backslash stands for. -/
def shortEscape? (c : Char) : Option Char :=
  if c = '"' ∨ c = '\\' ∨ c = '/' then some c
  else if c = 'b' then some '\x08'
  else if c = 'f' then some '\x0c'
  else if c = 'n' then some '\n'
  else if c = 'r' then some '\r'
  else if c = 't' then some '\t'
  else none

/-- A code put in front of what has been read. -/
def consCode (n : Nat) (r : Except Stuck (List Nat × Text)) : Except Stuck (List Nat × Text) :=
  r.map fun p => (n :: p.1, p.2)

/-- The codes up to the closing quote of a string, and what follows it; `opening` is what was left
at the opening quote. An escape by a code is not the last thing of a text. -/
def scanCodes (opening : Text) : Text → Except Stuck (List Nat × Text)
  | [] => .error (.fault .unterminated opening)
  | c :: t =>
    if c = '"' then .ok ([], t)
    else if c = '\\' then
      match t with
      | [] => .error (.fault .unterminated opening)
      | x :: u =>
        if x = 'u' then
          match u with
          | h₁ :: h₂ :: h₃ :: h₄ :: e :: r =>
            match quad? h₁ h₂ h₃ h₄ with
            | some n => consCode n (scanCodes opening (e :: r))
            | none => .error (.fault .unicodeEscape (x :: u))
          | _ => .error (.fault .unicodeEscape (x :: u))
        else match shortEscape? x with
          | some ch => consCode ch.toNat (scanCodes opening u)
          | none => .error (.fault .escape (c :: t))
    else if c.toNat < 0x20 then .error (.fault .control (c :: t))
    else consCode c.toNat (scanCodes opening t)

/-- The text up to the closing quote of a string, and what follows it. -/
def scanString (opening t : Text) : Except Stuck (CodePoints × Text) :=
  (scanCodes opening t).map fun p => (pointsOfCodes p.1, p.2)

/-- An escape by the code of a character of at most 16 bits. -/
def codeEscape (n : Nat) : Text := '\\' :: 'u' :: Text.ofHexPadded 4 n

/-- One character of a string; with `ascii`, nothing outside printable ASCII stands for itself. -/
def charText (ascii : Bool) (c : Char) : Text :=
  if c = '"' ∨ c = '\\' then ['\\', c]
  else if c = '\n' then ['\\', 'n']
  else if c = '\r' then ['\\', 'r']
  else if c = '\t' then ['\\', 't']
  else if c = '\x08' then ['\\', 'b']
  else if c = '\x0c' then ['\\', 'f']
  else if c.toNat < 0x20 ∨ (ascii ∧ 0x7e < c.toNat) then
    if c.toNat < 0x10000 then codeEscape c.toNat
    else
      let n := c.toNat - 0x10000
      codeEscape (0xd800 + n / 1024) ++ codeEscape (0xdc00 + n % 1024)
  else [c]

/-- A text as a string of JSON. -/
def stringText (ascii : Bool) (t : Text) : Text := '"' :: t.flatMap (charText ascii) ++ ['"']

end ChangeFeed.Json
