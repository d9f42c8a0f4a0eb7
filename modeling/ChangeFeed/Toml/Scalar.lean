import ChangeFeed.Toml.Scan
import ChangeFeed.Value.Basic

/-!
Numbers, dates and times of day in TOML.

Whole numbers may be in a base that is marked by a letter. A date may have a time of day behind it,
which may tell its distance from universal time.
-/

namespace ChangeFeed.Toml

/-- Digits of a base with single underscores between them, and what follows. -/
def scanDigits (isDigit : Char → Bool) : Text → Option (Text × Text)
  | [] => none
  | c :: t =>
    if isDigit c then
      match t with
      | '_' :: u =>
        match scanDigits isDigit u with
        | some (ds, u) => some (c :: ds, u)
        | none => some ([c], t)
      | t =>
        match scanDigits isDigit t with
        | some (ds, u) => some (c :: ds, u)
        | none => some ([c], t)
    else none

/-- The number that digits of a base stand for. -/
def baseValue (base : Nat) (ds : Text) : Nat :=
  ds.foldl (fun n c => base * n + (Text.hexValue? c).getD 0) 0

/-- The bases that are marked by a letter, with their digits. -/
def markedBase? : Char → Option (Nat × (Char → Bool))
  | 'x' => some (16, fun c => (Text.hexValue? c).isSome)
  | 'o' => some (8, fun c => '0' ≤ c && c ≤ '7')
  | 'b' => some (2, fun c => c == '0' || c == '1')
  | _ => none

/-- A whole number in a marked base. -/
def scanMarked? : Text → Option (Value × Text)
  | '0' :: c :: t => do
    let (base, isDigit) ← markedBase? c
    let (ds, t) ← scanDigits isDigit t
    return (.int (baseValue base ds), t)
  | _ => none

/-- A sign, and what follows it. -/
def scanSign : Text → Bool × Text
  | '-' :: t => (true, t)
  | '+' :: t => (false, t)
  | t => (false, t)

/-- The exponent of a number, and what follows it. -/
def scanExponent? : Text → Option (Int × Text)
  | e :: t =>
    if e = 'e' ∨ e = 'E' then
      let (negative, t) := scanSign t
      (scanDigits Text.isAsciiDigit t).map fun (ds, t) =>
        (if negative then -(baseValue 10 ds : Int) else baseValue 10 ds, t)
    else none
  | [] => none

/-- A number in base ten. -/
def scanDecimal (t : Text) : Except SyntaxProblem (Value × Text) :=
  let (negative, t) := scanSign t
  match Text.rest? "inf" t, Text.rest? "nan" t with
  | some t, _ => .ok (.real (.infinite negative), t)
  | _, some t => .ok (.real .nan, t)
  | none, none =>
    let whole := match t with
      | '0' :: t => some (['0'], t)
      | t => scanDigits Text.isAsciiDigit t
    match whole with
    | none => .error .malformed
    | some (whole, t) =>
      let fraction := match t with
        | '.' :: u => scanDigits Text.isAsciiDigit u
        | _ => none
      let decimals := (fraction.map Prod.fst).getD []
      let t := (fraction.map Prod.snd).getD t
      let exponent := scanExponent? t
      let rest := (exponent.map Prod.snd).getD t
      if fraction.isNone && exponent.isNone then
        match Numeral.ofDecimals? whole with
        | .error p => .error (.number p)
        | .ok n => .ok (.int (if negative then -(n : Int) else n), rest)
      else
        let power := (exponent.map Prod.fst).getD 0 - decimals.length
        .ok (.real (.ofDecimal negative (baseValue 10 (whole ++ decimals)) power), rest)

/-- Two digits of a number below a bound, and what follows. -/
def scanPair? (bound : Nat) : Text → Option (Nat × Text)
  | a :: b :: t =>
    if Text.isAsciiDigit a && Text.isAsciiDigit b && decide (baseValue 10 [a, b] < bound) then
      some (baseValue 10 [a, b], t)
    else none
  | _ => none

/-- A number of four digits, and what follows. -/
def scanYear? (t : Text) : Option (Nat × Text) :=
  let ds := t.take 4
  if ds.length = 4 ∧ ds.all Text.isAsciiDigit then some (baseValue 10 ds, t.drop 4) else none

/-- Microseconds behind a point, of which digits beyond the sixth are dropped, and what follows. -/
def scanMicroseconds (t : Text) : Nat × Text :=
  match t with
  | '.' :: u =>
    match u.span Text.isAsciiDigit with
    | ([], _) => (0, t)
    | (ds, rest) => (baseValue 10 ((ds ++ Text.fill 6 '0').take 6), rest)
  | t => (0, t)

/-- A time of day, and what follows. -/
def scanClock? (t : Text) : Option (Clock × Text) := do
  let (hour, t) ← scanPair? 24 t
  let (minute, t) ← Text.rest? ":" t >>= scanPair? 60
  let (second, t) ← Text.rest? ":" t >>= scanPair? 60
  let (microsecond, t) := scanMicroseconds t
  return (⟨hour, minute, second, microsecond⟩, t)

/-- A distance from universal time in seconds, and what follows. -/
def scanOffset? : Text → Option (Int × Text)
  | c :: t =>
    if c = 'Z' ∨ c = 'z' then some (0, t)
    else if c = '+' ∨ c = '-' then do
      let (hours, t) ← scanPair? 24 t
      let (minutes, t) ← Text.rest? ":" t >>= scanPair? 60
      let seconds : Int := hours * 3600 + minutes * 60
      return (if c = '-' then -seconds else seconds, t)
    else none
  | [] => none

/-- The numbers of a date, and what follows. -/
def scanDate? (t : Text) : Option (Instant.Date × Text) := do
  let (year, t) ← scanYear? t
  let (month, t) ← Text.rest? "-" t >>= scanPair? 13
  let (day, t) ← Text.rest? "-" t >>= scanPair? 32
  if month = 0 ∨ day = 0 then none else some (⟨year, month, day⟩, t)

/-- A time of day behind the mark that separates it from a date, and what follows. -/
def scanDayTime? : Text → Option (Clock × Text)
  | c :: t => if c = 'T' ∨ c = 't' ∨ c = ' ' then scanClock? t else none
  | [] => none

/-- A date or a time of day or both, and what follows. -/
def scanMoment? (t : Text) : Option (Moment × Text) :=
  match scanDate? t with
  | none => (scanClock? t).map fun r => (.time r.1, r.2)
  | some (d, t) =>
    match scanDayTime? t with
    | none => some (.date d, t)
    | some (clock, t) =>
      match scanOffset? t with
      | none => some (.dateTime d clock none, t)
      | some (offset, t) => some (.dateTime d clock (some offset), t)

/-- Whether the date of a moment, if it has one, is in the calendar. -/
def isPossible : Moment → Bool
  | .date d | .dateTime d _ _ => Moment.isDate d
  | .time _ => true

/-- A moment or a number, and what follows it. -/
def scanScalar (t : Text) : Except SyntaxProblem (Value × Text) :=
  match scanMoment? t with
  | some (m, t) => if isPossible m then .ok (.moment m, t) else .error .malformed
  | none =>
    match scanMarked? t with
    | some r => .ok r
    | none => scanDecimal t

end ChangeFeed.Toml
