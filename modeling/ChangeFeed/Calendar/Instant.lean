import ChangeFeed.Decimal.Binary64
import ChangeFeed.Text.Basic

/-!
Points in time, in seconds and, if need be, millionths of a second.

An instant lies in one of the years 1 to 9999. A count of seconds outside them is refused, and the
refusal tells how far outside it lies.
-/

namespace ChangeFeed

/-- A point in time: the seconds since the start of 1970, between the years 1 and 9999, and the
millionths of a second behind them. -/
structure Instant where
  seconds : Int
  first_le : -62135596800 ≤ seconds
  le_last : seconds ≤ 253402300799
  millionths : Nat := 0
  deriving DecidableEq, Repr

namespace Instant

/-- Why a count of seconds is no instant. -/
inductive Problem where
  /-- The count does not fit in 64 bits. -/
  | tooManySeconds
  /-- The year does not fit in 32 bits. -/
  | tooManyYears
  /-- The year is not one of 1 to 9999. -/
  | year (y : Int)
  /-- The count is not a number. -/
  | notNumber
  deriving DecidableEq, Repr

namespace Problem

/-- The kind of error, as reports name it. -/
def kind : Problem → Text
  | tooManySeconds => "OverflowError"
  | tooManyYears => "OSError"
  | year _ | notNumber => "ValueError"

/-- The text of the error. -/
def message : Problem → Text
  | tooManySeconds => "timestamp out of range for platform time_t"
  | tooManyYears => "[Errno 75] Value too large for defined data type"
  | year y => "year " ++ Text.ofInt y ++ " is out of range"
  | notNumber => "Invalid value NaN (not a number)"

end Problem

/-- A day of the calendar. -/
structure Date where
  year : Int
  month : Nat
  day : Nat
  deriving DecidableEq, Repr

/-- The date that lies `days` days after the first day of 1970.

Years are counted from March, so that a leap day ends its year, and in eras of 400 years, which all
have the same number of days. -/
def Date.ofDays (days : Int) : Date :=
  let n := days + 719468
  let era := n.fdiv 146097
  let dayOfEra := (n - era * 146097).toNat
  let yearOfEra := (dayOfEra - dayOfEra / 1460 + dayOfEra / 36524 - dayOfEra / 146096) / 365
  let dayOfYear := dayOfEra - (365 * yearOfEra + yearOfEra / 4 - yearOfEra / 100)
  let m := (5 * dayOfYear + 2) / 153
  let month := if m < 10 then m + 3 else m - 9
  { year := yearOfEra + era * 400 + (if month ≤ 2 then 1 else 0)
    month
    day := dayOfYear - (153 * m + 2) / 5 + 1 }

/-- The instant a given number of seconds after the start of 1970. -/
def ofSeconds (n : Int) : Except Problem Instant :=
  if n < -0x8000000000000000 ∨ 0x8000000000000000 ≤ n then .error .tooManySeconds
  else if n < -67768040609740800 ∨ 67768036191676800 ≤ n then .error .tooManyYears
  else if h : -62135596800 ≤ n ∧ n ≤ 253402300799 then .ok ⟨n, h.1, h.2, 0⟩
  else .error (.year ((Date.ofDays (n.fdiv 86400)).year.bmod 0x100000000))

theorem ofSeconds_seconds (i : Instant) (h : i.millionths = 0) : ofSeconds i.seconds = .ok i := by
  have h₁ := i.first_le
  have h₂ := i.le_last
  unfold ofSeconds
  rw [if_neg (by omega), if_neg (by omega), dif_pos ⟨h₁, h₂⟩]
  cases i
  cases h
  rfl

/-- The millionths in one second. -/
def perSecond : Nat := 1000000

/-- The instant a number of seconds after the start of 1970, to the nearest millionth. -/
def ofReal (x : Binary64) : Except Problem Instant :=
  match x.signedRatio? with
  | none => .error (if x = .nan then .notNumber else .tooManySeconds)
  | some (num, den) =>
    let whole := num.tdiv den
    let product := Binary64.ofSigned ((num - whole * den) * perSecond) den
    match product.signedRatio? with
    | none => .error .tooManySeconds
    | some (num, den) =>
      let rounded : Int := Binary64.roundHalfEven num.natAbs den * num.sign
      (ofSeconds (whole + rounded.fdiv perSecond)).map fun i =>
        { i with millionths := (rounded.fmod perSecond).toNat }

/-- The decimal digits of a number, filled up with zeros on the left. -/
def padded (width n : Nat) : Text :=
  let ds := Text.ofNat n
  Text.fill (width - ds.length) '0' ++ ds

/-- Date and time of day, as `2024-01-15T10:30:00+00:00`, with millionths if there are any. -/
def toText (i : Instant) : Text :=
  let date := Date.ofDays (i.seconds.fdiv 86400)
  let time := (i.seconds.fmod 86400).toNat
  let fraction := if i.millionths = 0 then [] else '.' :: padded 6 i.millionths
  padded 4 date.year.toNat ++ "-" ++ padded 2 date.month ++ "-" ++ padded 2 date.day ++ "T" ++
    padded 2 (time / 3600) ++ ":" ++ padded 2 (time / 60 % 60) ++ ":" ++ padded 2 (time % 60) ++
    fraction ++ "+00:00"

end Instant

end ChangeFeed
