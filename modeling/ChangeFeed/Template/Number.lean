import ChangeFeed.Decimal.Rounded
import ChangeFeed.Template.Layout
import ChangeFeed.Text.LetterCase

/-!
The layout of numbers.

A number is cut into its sign, a mark of its base, the digits in front of the point and all that
follows them. Zeros that fill a field up count as digits, so separators stand among them too.
-/

namespace ChangeFeed.Template

/-- The parts of a number that are laid out apart. -/
structure Figure where
  negative : Bool := false
  base : Text := []
  digits : Text := []
  rest : Text := []
  deriving DecidableEq, Repr

namespace Figure

/-- Digits, from the last one on, in groups with marks between them. Zeros follow until the width is
reached; `fuel` groups are enough. -/
def groupedBackwards (mark : Char) (size : Nat) : Nat → Nat → Text → Text
  | 0, _, _ => []
  | fuel + 1, width, ds =>
    let n := min size (max (max ds.length width) 1)
    let group := ds.take n ++ Text.fill (n - ds.length) '0'
    if ds.length ≤ n ∧ width ≤ n then group
    else group ++ mark :: groupedBackwards mark size fuel (width - n - 1) (ds.drop n)

/-- Digits of at least a width, in groups of a size if they are to be separated by a mark. -/
def grouped (mark : Option Char) (size width : Nat) (ds : Text) : Text :=
  if ds = [] then []
  else match mark with
    | none => Text.fill (width - ds.length) '0' ++ ds
    | some mark =>
      (groupedBackwards mark size (ds.length + width + 1) width ds.reverse).reverse

/-- The sign that a figure shows. -/
def signText (sign : Option Char) (negative : Bool) : Text :=
  if negative then ['-']
  else match sign with
    | some '+' => ['+']
    | some ' ' => [' ']
    | _ => []

/-- The text of a figure in a layout. -/
def text (l : Layout) (groupSize : Nat) (f : Figure) : Text :=
  let sign := signText l.sign f.negative
  let width := l.width.getD 0
  let others := sign.length + f.base.length + f.rest.length
  let minWidth := if l.fill = '0' ∧ l.align = '=' then width - others else 0
  let digits := grouped l.separator groupSize minWidth f.digits
  let missing := width - (others + digits.length)
  let left := if l.align = '>' then missing else if l.align = '^' then missing / 2 else 0
  let inner := if l.align = '=' then missing else 0
  Text.fill left l.fill ++ sign ++ f.base ++ Text.fill inner l.fill ++ digits ++ f.rest ++
    Text.fill (missing - left - inner) l.fill

end Figure

/-- The base in which a type writes whole numbers, and the mark of that base. -/
def baseOf (type : Char) : Nat × Text :=
  if type = 'b' then (2, "0b")
  else if type = 'o' then (8, "0o")
  else if type = 'x' then (16, "0x")
  else if type = 'X' then (16, "0X")
  else (10, [])

/-- The size of the groups of digits in a base. -/
def groupSizeOf (base : Nat) : Nat := if base = 10 then 3 else 4

/-- The character that a number stands for, laid out. -/
def layOutCharacter (l : Layout) (n : Int) : Except Problem Text :=
  if l.sign.isSome then .error .signOnCharacter
  else if l.alternate then .error .alternateOnCharacter
  else if n < 0 ∨ 0x110000 ≤ n then .error .noCharacter
  else .ok (Figure.text l 3 { rest := [Char.ofNat n.toNat] })

/-- A whole number in a base, laid out. -/
def layOutInteger (l : Layout) (n : Int) : Except Problem Text :=
  if l.precision.isSome then .error .precisionOnInteger
  else if l.noNegativeZero then .error .zeroOnInteger
  else if l.type = 'c' then layOutCharacter l n
  else
    let base := baseOf l.type
    let ds := Nat.toDigits base.1 n.natAbs
    let f : Figure := {
      negative := n < 0
      base := if l.alternate then base.2 else []
      digits := if l.type = 'X' then Text.upperAscii ds else ds }
    .ok (f.text l (groupSizeOf base.1))

/-- The digits behind the point, or in all, where a layout does not say. -/
def defaultPrecision : Nat := 6

/-- The largest precision of a number. -/
def maxPrecision : Nat := 0x7fffffff

/-- The text of a decimal that is written in the shorter one of both forms. -/
def generalText (d : Decimal) (precision : Nat) (whole kept : Bool) : Text :=
  let stop : Int := if kept then precision else d.digits.length
  if d.point ≤ -4 ∨ (precision : Int) - (if whole then 1 else 0) < d.point then
    d.scientific stop kept
  else d.positional stop whole kept

/-- The magnitude of a finite number as a type writes it, and whether that is zero. -/
def magnitudeText (l : Layout) (mantissa : Nat) (exponent : Int) : Text × Bool :=
  let v := Binary64.ratio mantissa exponent
  let precision := l.precision.getD defaultPrecision
  let type := l.type.toLower
  if type = 'e' then
    let d := Decimal.significant v.1 v.2 (precision + 1)
    (d.scientific (precision + 1) l.alternate, d.isZero)
  else if type = 'f' ∨ type = '%' then
    let d := Decimal.behindPoint v.1 v.2 precision
    (d.positional (d.point + precision) false l.alternate, d.isZero)
  else if type = '\x00' ∧ l.precision = none then
    let d := Decimal.shortest mantissa exponent
    let far := d.point ≤ -4 ∨ 16 < d.point
    (if far then d.scientific d.digits.length l.alternate
      else d.positional d.digits.length true l.alternate, d.isZero)
  else
    let precision := if precision = 0 then 1 else precision
    let d := Decimal.significant v.1 v.2 precision
    (generalText d precision (type == '\x00') l.alternate, d.isZero)

/-- The figure of a number as a type writes it. -/
def figureOf (l : Layout) (x : Binary64) : Figure :=
  match x with
  | .nan => { rest := "nan" }
  | .infinite negative => { negative, rest := "inf" }
  | .finite negative mantissa exponent =>
    let (t, isZero) := magnitudeText l mantissa exponent
    let ds := t.takeWhile fun c => '0' ≤ c && c ≤ '9'
    { negative := negative && !(l.noNegativeZero && isZero)
      digits := ds
      rest := t.drop ds.length }

/-- A number that need not be whole, laid out. -/
def layOutReal (l : Layout) (x : Binary64) : Except Problem Text :=
  if maxPrecision < l.precision.getD 0 then .error .hugePrecision
  else
    let f := figureOf l (if l.type = '%' then x.scale 100 else x)
    let rest := if l.type.isUpper then Text.upperAscii f.rest else f.rest
    .ok (Figure.text l 3 { f with rest := if l.type = '%' then rest ++ ['%'] else rest })

/-- The types in which whole numbers are written. -/
def isIntegerType (c : Char) : Bool := "bcdoxXn".toList.contains c

/-- The types in which other numbers are written. -/
def isRealType (c : Char) : Bool := "eEfFgG%".toList.contains c

/-- A whole number of a kind laid out as a specification says. -/
def layOutWhole (kind spec : Text) (n : Int) : Except Problem Text := do
  let l ← Layout.read (Layout.forInteger kind) spec
  if isIntegerType l.type then layOutInteger l n
  else if isRealType l.type then
    match Binary64.ofSigned n 1 with
    | .infinite _ => throw .hugeReal
    | x => layOutReal l x
  else throw (.unknownType l.type kind)

/-- A number laid out as a specification says. -/
def layOutNumber (spec : Text) (x : Binary64) : Except Problem Text := do
  let l ← Layout.read Layout.forReal spec
  if isRealType l.type || l.type == 'n' || l.type == '\x00' then layOutReal l x
  else throw (.unknownType l.type "float")

/-- A value laid out as a specification says; an empty specification leaves it as it is
displayed. -/
def layOut : Text → Value → Except Problem Text
  | _, .broken t => .error (.misuse (.unencodable t.problem))
  | [], v => .ok v.display
  | spec, .text t => layOutText spec t
  | spec, .int n => layOutWhole "int" spec n
  | spec, .bool b => layOutWhole "bool" spec (if b then 1 else 0)
  | spec, .real x => layOutNumber spec x
  | _, v => .error (.misuse (.noLayout v.kindName))

end ChangeFeed.Template
