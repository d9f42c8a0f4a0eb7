import ChangeFeed.Text.Blank
import ChangeFeed.Text.Digit
import ChangeFeed.Text.Quoted

/-!
Whole numbers in texts.

A numeral is read in digits of any script, with an optional sign, single underscores between digits
and blanks around it. A numeral of more than `Numeral.maxDigits` digits is refused, leading zeros
included, and so is the writing of a number that long.
-/

namespace ChangeFeed

namespace Numeral

/-- The most digits that a numeral may have. -/
def maxDigits : Nat := 4300

/-- Why a text is no whole number, or a number has no text. -/
inductive Problem where
  /-- The text is no numeral. -/
  | malformed (t : Text)
  /-- The numeral has this many digits, which is more than allowed. -/
  | tooLong (digits : Nat)
  /-- The number to be written has more digits than allowed. -/
  | tooLarge
  /-- The number is infinite. -/
  | infinite
  deriving DecidableEq, Repr

namespace Problem

/-- The kind of error, as reports name it. -/
def kind : Problem → Text
  | infinite => "OverflowError"
  | _ => "ValueError"

/-- The advice at the end of a message about too many digits. -/
def advice : Text := "use sys.set_int_max_str_digits() to increase the limit"

/-- The text of the error; of a text that is no numeral it shows at most 200 characters. -/
def message : Problem → Text
  | malformed t => "invalid literal for int() with base 10: " ++ (Text.quoted t).take 200
  | tooLong n =>
    "Exceeds the limit (" ++ Text.ofNat maxDigits ++ " digits) for integer string conversion: " ++
      "value has " ++ Text.ofNat n ++ " digits; " ++ advice
  | tooLarge =>
    "Exceeds the limit (" ++ Text.ofNat maxDigits ++ " digits) for integer string conversion; " ++
      advice
  | infinite => "cannot convert float infinity to integer"

end Problem

/-- The number that a list of digit values stands for. -/
def ofDigits (ds : List Nat) : Nat := ds.foldl (fun n d => 10 * n + d) 0

/-- The number that a run of decimal digits stands for. -/
def ofDecimals? (t : Text) : Except Problem Nat :=
  if maxDigits < t.length then .error (.tooLong t.length)
  else .ok (ofDigits (t.filterMap Text.decimalValue?))

/-- Blanks around a numeral: the separators 0x1c to 0x1f do not count. -/
def isMargin (c : Char) : Bool := Text.isBlank c && !(28 ≤ c.toNat && c.toNat ≤ 31)

/-- The longest start of digits and underscores, and what follows it. -/
def digitRun (t : Text) : Text × Text := t.span fun c => Text.isDecimal c || c == '_'

/-- Whether every underscore of a run stands between two digits. -/
def separatorsOk : Text → Bool
  | [] => true
  | c :: t => c != '_' && go c t
where
  go : Char → Text → Bool
    | p, [] => p != '_'
    | p, c :: t => !(p == '_' && c == '_') && go c t

/-- The sign in front of a numeral: whether it is negative, and what follows. -/
def sign : Text → Bool × Text
  | '-' :: t => (true, t)
  | '+' :: t => (false, t)
  | t => (false, t)

/-- The whole number that a text stands for. -/
def read (t : Text) : Except Problem Int :=
  let signed := sign (t.dropWhile isMargin)
  let run := digitRun signed.2
  let digits := run.1.filter (· != '_')
  if digits = [] ∨ separatorsOk run.1 = false then .error (.malformed t)
  else
    match ofDecimals? digits with
    | .error e => .error e
    | .ok n =>
      if run.2.all isMargin then .ok (if signed.1 then -(n : Int) else n)
      else .error (.malformed t)

/-- Whether a number has at most `maxDigits` digits. -/
def fits (n : Int) : Bool := n.natAbs < Nat.pow 10 maxDigits

/-- The decimal text of a number that is not too large. -/
def write (n : Int) : Except Problem Text :=
  if fits n then .ok (Text.ofInt n) else .error .tooLarge

end Numeral

end ChangeFeed
