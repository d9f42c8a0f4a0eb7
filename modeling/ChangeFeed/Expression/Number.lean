import ChangeFeed.Expression.Basic
import ChangeFeed.Expression.Fault

/-!
The numbers of an expression.

Single underscores may stand between the digits of a number. A letter or another word character
behind a number is a fault, unless it starts one of the words that link two operands.
-/

namespace ChangeFeed.Expression

/-- Whether a character can stand in a name; all characters above 127 are taken for such, and a name
of them is looked at as a whole. -/
def isNameChar (c : Char) : Bool :=
  Text.isAsciiLetter c || Text.isAsciiDigit c || c == '_' || 128 ≤ c.toNat

namespace Number

/-- Whether a character is a digit of a kind of numeral. -/
def isDigitOf (kind : NumeralKind) (c : Char) : Bool := (Text.hexValue? c).any (· < kind.base)

/-- The fault of a character that stands where a digit has to come. -/
def noDigit (kind : NumeralKind) (c : Char) : Fault :=
  if Text.isAsciiDigit c then .digit c kind else .numeral kind

/-- What follows digits and single underscores between them; `due` says that a digit has to come. -/
def dropDigits (kind : NumeralKind) : Bool → Text → Except Fault Text
  | false, [] => .ok []
  | true, [] => .error (.numeral kind)
  | due, c :: t =>
    if isDigitOf kind c then dropDigits kind false t
    else if due then .error (noDigit kind c)
    else if c = '_' then dropDigits kind true t
    else if Text.isAsciiDigit c then .error (.digit c kind)
    else .ok (c :: t)

/-- The words that may follow a number without a blank, if nothing goes on behind them. -/
def followers : List String := ["and", "else", "for", "or", "not"]

/-- The words that may follow a number without a blank, whatever goes on behind them. -/
def shortFollowers : List String := ["if", "in", "is"]

/-- Whether a text starts with a word that may follow a number without a blank. -/
def hasFollower (t : Text) : Bool :=
  (followers.any fun w => (Text.rest? w.toList t).any fun r => !r.head?.any isNameChar) ||
    shortFollowers.any fun w => Text.startsWith w.toList t

/-- The text behind a number, unless the number runs into it. -/
def checkEnd (kind : NumeralKind) (t : Text) : Except Fault Text :=
  if t.head?.any isNameChar && !hasFollower t then .error (.numeral kind) else .ok t

/-- What follows the digits behind a point. -/
def dropFraction (t : Text) : Except Fault Text :=
  if t.head?.any Text.isAsciiDigit then dropDigits .decimal false t else .ok t

/-- What follows an exponent, if a text starts with one. A letter without digits is none. -/
def dropExponent (t : Text) : Except Fault Text :=
  match t with
  | e :: s :: u =>
    if e = 'e' ∨ e = 'E' then
      if s = '+' ∨ s = '-' then dropDigits .decimal true u
      else if Text.isAsciiDigit s then dropDigits .decimal false (s :: u)
      else .ok t
    else .ok t
  | t => .ok t

/-- What follows the letter of an imaginary number, if there is one, and the end of a number. -/
def dropUnit (t : Text) : Except Fault Text :=
  match t with
  | c :: u => if c = 'j' ∨ c = 'J' then checkEnd .imaginary u else checkEnd .decimal t
  | [] => .ok []

/-- The kind of numeral that a letter behind a zero announces. -/
def kindOf? (c : Char) : Option NumeralKind :=
  if c = 'x' ∨ c = 'X' then some .hexadecimal
  else if c = 'o' ∨ c = 'O' then some .octal
  else if c = 'b' ∨ c = 'B' then some .binary
  else none

/-- What follows a decimal number. Digits behind a leading zero are a fault, unless a point, an
exponent or the letter of an imaginary number shows that the number is no whole one. -/
def dropDecimal (t : Text) : Except Fault Text := do
  let rest ← dropDigits .decimal false t
  let digits := t.take (t.length - rest.length)
  match rest with
  | '.' :: u => dropUnit (← dropExponent (← dropFraction u))
  | _ =>
    let goesOn := rest.head?.any fun c => c == 'e' || c == 'E' || c == 'j' || c == 'J'
    if !goesOn && digits.head? == some '0' && digits.any fun c => c != '0' && c != '_' then
      throw .leadingZeros
    dropUnit (← dropExponent rest)

/-- What follows the number at the start of a text, which starts with a digit, or with a point and a
digit. -/
def drop (t : Text) : Except Fault Text :=
  match t with
  | '0' :: c :: u =>
    match kindOf? c with
    | some kind => do
      let rest ← dropDigits kind true (match u with | '_' :: v => v | v => v)
      checkEnd kind rest
    | none => dropDecimal t
  | _ => dropDecimal t

/-- The number that digits of a base stand for; other characters do not count. -/
def valueOf (kind : NumeralKind) (t : Text) : Nat :=
  (t.filterMap Text.hexValue?).foldl (fun n d => kind.base * n + d) 0

/-- The constant that the text of a number stands for. A whole number may not have more decimal
digits than any numeral. -/
def constant (t : Text) : Except Fault Constant :=
  match t with
  | '0' :: c :: u =>
    match kindOf? c with
    | some kind => .ok (.integer (valueOf kind u))
    | none => decimal
  | _ => decimal
where
  decimal : Except Fault Constant :=
    let digits := t.filter (· != '_')
    if digits.getLast?.any fun c => c == 'j' || c == 'J' then .ok .imaginary
    else if !digits.all Text.isAsciiDigit then .ok .real
    else if digits.head? = some '0' then
      .ok (if digits.all (· == '0') then .integer 0 else .real)
    else if Numeral.maxDigits < digits.length then .error (.longNumeral digits.length)
    else .ok (.integer (valueOf .decimal digits))

end Number

end ChangeFeed.Expression
