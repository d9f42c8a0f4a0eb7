import ChangeFeed.Text.CodeRange
import ChangeFeed.Text.LetterCase
import ChangeFeed.Text.Numeral
import ChangeFeed.Value.Basic
import ChangeFeed.Yaml.Problem

/-!
What scalars of YAML stand for.

The tag of a node says what it is. A plain scalar without a tag may be null, a truth value, a number
or a moment; else it is a text. Truth values have many names, and numbers may have underscores,
bases and sexagesimal places.
-/

namespace ChangeFeed.Yaml

/-- What a node is. -/
inductive Tag where
  | null
  | bool
  | int
  | real
  | moment
  | text
  /-- A key whose value is merged into the table. -/
  | merge
  /-- A key that stands for the value of a table. -/
  | default
  | list
  | table
  /-- A list of tables of one entry each. -/
  | pairs
  /-- Something that no value is. -/
  | unknown
  deriving DecidableEq, Repr

/-- The start of the full names of tags. -/
def Tag.start : Text := "tag:yaml.org,2002:"

/-- The tags that have a name. -/
def Tag.names : List (String × Tag) := [
  ("null", .null), ("bool", .bool), ("int", .int), ("float", .real), ("timestamp", .moment),
  ("str", .text), ("merge", .merge), ("value", .default), ("seq", .list), ("map", .table),
  ("pairs", .pairs), ("omap", .pairs)]

/-- The tag with a full name. -/
def Tag.ofName (t : Text) : Tag :=
  match Text.rest? Tag.start t with
  | some name => (Tag.names.lookup (String.ofList name)).getD .unknown
  | none => .unknown

/-- The names of truth. -/
def trueNames : List String := ["yes", "Yes", "YES", "true", "True", "TRUE", "on", "On", "ON"]

/-- The names of falsehood. -/
def falseNames : List String := ["no", "No", "NO", "false", "False", "FALSE", "off", "Off", "OFF"]

/-- The names of null. -/
def nullNames : List String := ["", "~", "null", "Null", "NULL"]

section recognition

/-- Whether a character can stand in a decimal number. -/
def isPlace (c : Char) : Bool := Text.isAsciiDigit c || c == '_'

/-- A sign at the start of a text, and what follows it. -/
def scanSign : Text → Bool × Text
  | '-' :: t => (true, t)
  | '+' :: t => (false, t)
  | t => (false, t)

/-- Whether a text is a place of a sexagesimal number behind the first one. -/
def isSixtieth : Text → Bool
  | [d] => Text.isAsciiDigit d
  | [a, d] => '0' ≤ a && a ≤ '5' && Text.isAsciiDigit d
  | _ => false

/-- Whether a text starts with a digit and has nothing but digits and underscores. -/
def isPlaces : Text → Bool
  | [] => false
  | c :: t => Text.isAsciiDigit c && t.all isPlace

/-- Whether a text has at least one character, and all of them satisfy `p` or are underscores. -/
def isMarked (p : Char → Bool) (t : Text) : Bool := t != [] && t.all fun c => p c || c == '_'

/-- Whether a text is a whole number without a sign. -/
def isMagnitude : Text → Bool
  | ['0'] => true
  | '0' :: 'b' :: t => isMarked (fun c => c == '0' || c == '1') t
  | '0' :: 'x' :: t => isMarked (fun c => (Text.hexValue? c).isSome) t
  | '0' :: t => isMarked (fun c => '0' ≤ c && c ≤ '7') t
  | t =>
    match t.splitOn ':' with
    | [] => false
    | first :: places => isPlaces first && places.all isSixtieth

/-- Whether a text is the exponent of a number, or nothing. -/
def isExponent : Text → Bool
  | [] => true
  | e :: s :: ds =>
    (e == 'e' || e == 'E') && (s == '-' || s == '+') && ds != [] && ds.all Text.isAsciiDigit
  | _ => false

/-- Whether a text is a number with a decimal point, or one that is not finite. -/
def isReal (t : Text) : Bool :=
  let u := (scanSign t).2
  let infinities : List Text := [".inf", ".Inf", ".INF"]
  let nans : List Text := [".nan", ".NaN", ".NAN"]
  infinities.contains u || nans.contains t ||
    match Text.cut? '.' u with
    | none => false
    | some (before, behind) =>
      let fits := isExponent (behind.dropWhile isPlace)
      (isPlaces before && fits) ||
        (before == [] && u == t && isPlaces (behind.takeWhile isPlace) && fits) ||
        match before.splitOn ':' with
        | first :: p :: places =>
          isPlaces first && (p :: places).all isSixtieth && behind.all isPlace
        | _ => false

end recognition

section moments

/-- The number in digits at the start of a text, of which there are at least `least` and which end
after at most `most`, and what follows them. -/
def scanDigits? (least most : Nat) (t : Text) : Option (Nat × Text) :=
  let ds := (t.take most).takeWhile Text.isAsciiDigit
  if ds.length < least then none
  else some (Numeral.ofDigits (ds.map fun c => c.toNat - 48), t.drop ds.length)

/-- What follows a character. -/
def behind? (c : Char) : Text → Option Text
  | d :: t => if d = c then some t else none
  | [] => none

/-- A time of day and its distance from universal time, in a whole text. -/
def clockOf? (t : Text) : Option (Clock × Option Int) := do
  let (hour, t) ← scanDigits? 1 2 t
  let (minute, t) ← scanDigits? 2 2 (← behind? ':' t)
  let (second, t) ← scanDigits? 2 2 (← behind? ':' t)
  let fraction := match t with
    | '.' :: u => u.takeWhile Text.isAsciiDigit
    | _ => []
  let t := match t with
    | '.' :: u => u.dropWhile Text.isAsciiDigit
    | u => u
  let microsecond :=
    Numeral.ofDigits ((fraction ++ Text.fill 6 '0').take 6 |>.map fun c => c.toNat - 48)
  let clock : Clock := ⟨hour, minute, second, microsecond⟩
  match t, t.dropWhile fun c => c == ' ' || c == '\t' with
  | [], _ => return (clock, none)
  | _, ['Z'] => return (clock, some 0)
  | _, s :: u =>
    let (hours, u) ← scanDigits? 1 2 u
    let minutes ← match u with
      | [] => some 0
      | ':' :: v =>
        match scanDigits? 2 2 v with
        | some (n, []) => some n
        | _ => none
      | _ => none
    let seconds : Int := hours * 3600 + minutes * 60
    if s = '-' then return (clock, some (-seconds))
    else if s = '+' then return (clock, some seconds)
    else none
  | _, [] => none

/-- A date and, if there is one, a time of day, in a whole text. -/
def momentOf? (t : Text) : Option Moment := do
  let (year, t) ← scanDigits? 4 4 t
  let (month, t) ← scanDigits? 1 2 (← behind? '-' t)
  let (day, t) ← scanDigits? 1 2 (← behind? '-' t)
  let d : Instant.Date := ⟨year, month, day⟩
  match t with
  | [] => return .date d
  | c :: u =>
    let u ← if c = 'T' ∨ c = 't' then some u
      else if c = ' ' ∨ c = '\t' then some (u.dropWhile fun c => c == ' ' || c == '\t')
      else none
    let (clock, offset) ← clockOf? u
    return .dateTime d clock offset

/-- A text without the line end that stands alone at its end. -/
def withoutLineEnd (t : Text) : Text := if t.getLast? = some '\n' then t.dropLast else t

/-- Whether a plain text is a moment: a date alone has two digits for month and day. -/
def isMoment (t : Text) : Bool :=
  match momentOf? t with
  | some (.date _) => t.length == 10
  | some _ => true
  | none => false

/-- Whether there is such a moment. -/
def isPossible : Moment → Bool
  | .date d => Moment.isDate d
  | .time c => c.isValid
  | .dateTime d c offset => Moment.isDate d && c.isValid && offset.all Moment.isOffset

end moments

/-- What a plain scalar without a tag is; a line end behind it does not matter. -/
def Tag.ofPlain (text : Text) : Tag :=
  let t := if text = ['\n'] then text else withoutLineEnd text
  let name := String.ofList t
  if nullNames.contains name then .null
  else if trueNames.contains name || falseNames.contains name then .bool
  else if name = "=" then .default
  else if name = "<<" then .merge
  else if name = "!" ∨ name = "&" ∨ name = "*" then .unknown
  else if isReal t then .real
  else if isMagnitude (scanSign t).2 then .int
  else if isMoment t then .moment
  else .text

section reading

/-- A text without underscores. -/
def withoutMarks (t : Text) : Text := t.filter (· != '_')

/-- The value of a digit in any base up to sixteen. -/
def digitValue? (c : Char) : Option Nat := (Text.hexValue? c).orElse fun _ => Text.decimalValue? c

/-- The number that digits of a base stand for. -/
def baseValue (base : Nat) (ds : Text) : Nat :=
  ds.foldl (fun n c => base * n + (digitValue? c).getD 0) 0

/-- The letter that may stand behind a zero in front of the digits of a base. -/
def baseLetter (base : Nat) : Char := if base = 2 then 'b' else if base = 8 then 'o' else 'x'

/-- The number in digits of a base, which may have a sign, the mark of the base and blanks around
it. -/
def readBase (base : Nat) (t : Text) : Except SyntaxProblem Int :=
  let (negative, u) := scanSign (Text.strip t)
  let ds := match u with
    | '0' :: l :: v => if Text.lower [l] = [baseLetter base] then v else u
    | _ => u
  if ds != [] && ds.all fun c => (digitValue? c).any (· < base) then
    .ok (if negative then -(baseValue base ds : Int) else baseValue base ds)
  else .error .scalar

/-- The number in a decimal numeral. -/
def readDecimal (t : Text) : Except SyntaxProblem Int :=
  (Numeral.read t).mapError fun _ => .scalar

/-- The number whose sexagesimal places are given. -/
def ofSixtieths (places : List Int) : Int := places.foldl (fun n p => 60 * n + p) 0

/-- The whole number that a text stands for. -/
def readWhole (t : Text) : Except SyntaxProblem Int := do
  let (negative, u) := scanSign (withoutMarks t)
  let magnitude : Int ← match u with
    | ['0'] => pure 0
    | '0' :: 'b' :: ds => readBase 2 ds
    | '0' :: 'x' :: ds => readBase 16 ds
    | '0' :: _ => readBase 8 u
    | _ =>
      match u.splitOn ':' with
      | [_] => readDecimal u
      | places => (places.mapM readDecimal).map ofSixtieths
  return if negative then -magnitude else magnitude

/-- The digits at the start of a text, and what follows them. -/
def digitsOf (t : Text) : Text × Text := t.span Text.isDecimal

/-- The exponent that a text is, or zero if there is no text. -/
def exponentOf? : Text → Option Int
  | [] => some 0
  | e :: t =>
    let (negative, ds) := scanSign t
    if (e = 'e' ∨ e = 'E') ∧ ds ≠ [] ∧ ds.all Text.isDecimal then
      some (if negative then -(baseValue 10 ds : Int) else baseValue 10 ds)
    else none

/-- The number in a decimal fraction, which may have a sign, an exponent and blanks around it. -/
def readFraction (t : Text) : Except SyntaxProblem Binary64 :=
  let (negative, u) := scanSign (Text.strip t)
  let name := String.ofList u
  if name = "inf" ∨ name = "infinity" then .ok (.infinite negative)
  else if name = "nan" then .ok .nan
  else
    let (whole, rest) := digitsOf u
    let (fraction, rest) := match rest with
      | '.' :: v => digitsOf v
      | v => ([], v)
    match exponentOf? rest with
    | some exponent =>
      if whole = [] ∧ fraction = [] then .error .scalar
      else
        .ok (.ofDecimal negative (baseValue 10 (whole ++ fraction)) (exponent - fraction.length))
    | none => .error .scalar

/-- The number whose sexagesimal places are given, the last one first, `base` being the weight of
the next one; each sum is rounded. -/
def addSixtieths (sum : Binary64) (base : Nat) : List Binary64 → Binary64
  | [] => sum
  | p :: places => addSixtieths (sum.add (p.scale base)) (60 * base) places

/-- The number that a text stands for. -/
def readReal (t : Text) : Except SyntaxProblem Binary64 := do
  let lower := Text.lower (withoutMarks t)
  let (negative, u) := scanSign lower
  if lower = [] then throw .scalar
  let magnitude ←
    if u = ".inf".toList then pure (.infinite false)
    else if u = ".nan".toList then pure .nan
    else match u.splitOn ':' with
      | [_] => readFraction u
      | places => do
        let ps ← places.mapM readFraction
        pure (addSixtieths (.finite false 0 Binary64.minExponent) 1 ps.reverse)
  return if negative then magnitude.neg else magnitude

/-- The value that a scalar with a tag stands for. -/
def Tag.read (tag : Tag) (t : Text) : Except SyntaxProblem Value :=
  match tag with
  | null => .ok .null
  | bool =>
    let name := String.ofList (Text.lower t)
    if trueNames.contains name then .ok (.bool true)
    else if falseNames.contains name then .ok (.bool false)
    else .error .scalar
  | int => (readWhole t).map .int
  | real => (readReal t).map .real
  | moment =>
    match momentOf? (withoutLineEnd t) with
    | some m => if isPossible m then .ok (.moment m) else .error .scalar
    | none => .error .scalar
  | text => .ok (.text t)
  | merge | default | unknown => .error .special
  | list | table | pairs => .error .misplaced

end reading

end ChangeFeed.Yaml
