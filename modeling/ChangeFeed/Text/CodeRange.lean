import ChangeFeed.Text.Basic

/-!
Character properties as tables of code point ranges.

Below 128 every property of this library is a short rule that a reader can check by eye; a table
speaks only of what lies above.
-/

namespace ChangeFeed.Text

/-- Whether a character lies in one of the ranges; both ends belong to a range. -/
def inRanges (ranges : List (Nat × Nat)) (c : Char) : Bool :=
  ranges.any fun r => r.1 ≤ c.toNat && c.toNat ≤ r.2

/-- An ASCII lower-case letter. -/
def isAsciiLower (c : Char) : Bool := 'a' ≤ c && c ≤ 'z'

/-- An ASCII capital letter. -/
def isAsciiUpper (c : Char) : Bool := 'A' ≤ c && c ≤ 'Z'

/-- An ASCII letter. -/
def isAsciiLetter (c : Char) : Bool := isAsciiLower c || isAsciiUpper c

/-- An ASCII decimal digit. -/
def isAsciiDigit (c : Char) : Bool := '0' ≤ c && c ≤ '9'

/-- The value of an ASCII hexadecimal digit, in either case. -/
def hexValue? (c : Char) : Option Nat :=
  if isAsciiDigit c then some (c.toNat - 48)
  else if 'a' ≤ c && c ≤ 'f' then some (c.toNat - 87)
  else if 'A' ≤ c && c ≤ 'F' then some (c.toNat - 55)
  else none

end ChangeFeed.Text
