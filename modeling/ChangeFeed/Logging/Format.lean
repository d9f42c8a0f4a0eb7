import ChangeFeed.Logging.Level
import ChangeFeed.Text.CodeRange
import ChangeFeed.Text.Digit
import ChangeFeed.Text.Word

/-!
Formats of log records.

A format has to mention a field of a record at least once: a name in parentheses behind a percent
sign, with optional flags, width and precision, and a letter for the conversion.
-/

namespace ChangeFeed.Logging

/-- Whether a character is a flag of a conversion. -/
def isFlag (c : Char) : Bool := c == '#' || c == '0' || c == '+' || c == ' ' || c == '-'

/-- Whether a character names a conversion, in either case. The dotless and the dotted capital `i`
and the long `s` are cases of their letters. -/
def isConversion (c : Char) : Bool :=
  "diouxefgcrsaDIOUXEFGCRSA%".toList.contains c || c.toNat == 0x130 || c.toNat == 0x131 ||
    c.toNat == 0x17f

/-- What follows a width at the start of a text: a star or digits, if there are any. -/
def dropWidth : Text → Text
  | '*' :: t => t
  | t => t.dropWhile Text.isDecimal

/-- Whether a text starts with a conversion and what may come before it. -/
def startsConversion (t : Text) : Bool :=
  let t := dropWidth (t.dropWhile isFlag)
  let t := match t with
    | '.' :: r => if (dropWidth r).length < r.length then dropWidth r else t
    | _ => t
  match t with
  | c :: _ => isConversion c
  | [] => false

/-- Whether a text starts with a field of a record. -/
def startsField (t : Text) : Bool :=
  match Text.rest? "%(" t with
  | none => false
  | some t =>
    match t.span Text.isWord with
    | (_ :: _, ')' :: t) => startsConversion t
    | _ => false

/-- Whether a format mentions a field of a record. -/
def mentionsField : Text → Bool
  | [] => false
  | c :: t => startsField (c :: t) || mentionsField t

end ChangeFeed.Logging
