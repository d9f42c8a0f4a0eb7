import ChangeFeed.Calendar.Instant

/-!
Dates and times of day, as data files give them.

A moment is a date, a time of day, or both, and then it may tell how far it is from universal time.
It is taken from a file as it stands and never compared with the clock.
-/

namespace ChangeFeed

/-- A time of day. -/
structure Clock where
  hour : Nat
  minute : Nat
  second : Nat
  microsecond : Nat
  deriving DecidableEq, Repr

/-- A date, a time of day, or both with the distance from universal time in seconds, if it is
known. -/
inductive Moment where
  | date (d : Instant.Date)
  | time (c : Clock)
  | dateTime (d : Instant.Date) (c : Clock) (offset : Option Int)
  deriving DecidableEq, Repr

namespace Clock

/-- Whether the numbers are those of a time of day. -/
def isValid (c : Clock) : Bool := c.hour < 24 && c.minute < 60 && c.second < 60

/-- Hours, minutes, seconds and, if there are any, microseconds. -/
def toText (c : Clock) : Text :=
  let fraction : Text :=
    if c.microsecond = 0 then [] else '.' :: Instant.padded 6 c.microsecond
  Instant.padded 2 c.hour ++ ":" ++ Instant.padded 2 c.minute ++ ":" ++
    Instant.padded 2 c.second ++ fraction

/-- The numbers of a time of day without the zeros at its end, hours and minutes apart. -/
def parts (c : Clock) : List Nat :=
  if c.microsecond = 0 then
    if c.second = 0 then [c.hour, c.minute] else [c.hour, c.minute, c.second]
  else [c.hour, c.minute, c.second, c.microsecond]

end Clock

namespace Moment

/-- Whether a year has a leap day. -/
def isLeap (year : Int) : Bool := year % 4 == 0 && (year % 100 != 0 || year % 400 == 0)

/-- The number of days of a month. -/
def daysIn (year : Int) (month : Nat) : Nat :=
  if month = 2 then (if isLeap year then 29 else 28)
  else if month = 4 ∨ month = 6 ∨ month = 9 ∨ month = 11 then 30
  else 31

/-- Whether there is such a date, in a year from 1 to 9999. -/
def isDate (d : Instant.Date) : Bool :=
  1 ≤ d.year && d.year ≤ 9999 && 1 ≤ d.month && d.month ≤ 12 && 1 ≤ d.day &&
    d.day ≤ daysIn d.year d.month

/-- The distances from universal time that a moment can have: less than a day. -/
def isOffset (seconds : Int) : Bool := -86400 < seconds && seconds < 86400

/-- The name of the kind of a moment. -/
def shortKind : Moment → Text
  | date _ => "date"
  | time _ => "time"
  | dateTime _ _ _ => "datetime"

/-- The full name of the kind of a moment. -/
def kindName (m : Moment) : Text := "datetime." ++ m.shortKind

/-- The numbers of a date. -/
def dateParts (d : Instant.Date) : List Nat := [d.year.toNat, d.month, d.day]

/-- Numbers with commas between them. -/
def listed (ns : List Nat) : Text := Text.join ", " (ns.map Text.ofNat)

/-- A distance from universal time as a literal. -/
def offsetLiteral (seconds : Int) : Text :=
  let length : Text :=
    if seconds < 0 then "days=-1, seconds=" ++ Text.ofInt (seconds + 86400)
    else "seconds=" ++ Text.ofInt seconds
  if seconds = 0 then "datetime.timezone.utc"
  else "datetime.timezone(datetime.timedelta(" ++ length ++ "))"

/-- A moment as a literal. -/
def literal (m : Moment) : Text :=
  let inner : Text := match m with
    | date d => listed (dateParts d)
    | time c => listed c.parts
    | dateTime d c none => listed (dateParts d ++ c.parts)
    | dateTime d c (some s) => listed (dateParts d ++ c.parts) ++ ", tzinfo=" ++ offsetLiteral s
  m.kindName ++ "(" ++ inner ++ ")"

/-- A distance from universal time in hours and minutes. -/
def offsetText (seconds : Int) : Text :=
  let minutes := seconds.natAbs / 60
  (if seconds < 0 then '-' else '+') :: Instant.padded 2 (minutes / 60) ++ ":" ++
    Instant.padded 2 (minutes % 60)

/-- A date with dashes. -/
def dateText (d : Instant.Date) : Text :=
  Instant.padded 4 d.year.toNat ++ "-" ++ Instant.padded 2 d.month ++ "-" ++
    Instant.padded 2 d.day

/-- A moment as it is displayed. -/
def toText : Moment → Text
  | date d => dateText d
  | time c => c.toText
  | dateTime d c offset =>
    dateText d ++ " " ++ c.toText ++ (offset.map offsetText).getD []

end Moment

end ChangeFeed
