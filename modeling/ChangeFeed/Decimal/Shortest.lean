import ChangeFeed.Decimal.Binary64
import ChangeFeed.Text.Basic

/-!
The shortest decimal text of a double-precision number.

The digits are the fewest that read back as the same number, and of several candidates the nearest
to it, the even one if two are equally near. Numbers from 10^-4 up to 10^16 are written
positionally, all others with an exponent.
-/

namespace ChangeFeed

namespace Binary64

/-- The number of digits before the point of `num / den`; zero or negative below a tenth. -/
def pointPosition (num den : Nat) : Int :=
  if den ≤ num then (Nat.toDigits 10 (num / den)).length
  else
    let n := (Nat.toDigits 10 (den / num)).length
    if den = num * Nat.pow 10 (n - 1) then 2 - (n : Int) else 1 - (n : Int)

/-- The decimals of `count` digits next to `num / den` from below and above, as digits and an
exponent of ten. The nearer one comes first, and of two that are equally near the even one. -/
def neighbours (num den count : Nat) : List (Nat × Int) :=
  let e := pointPosition num den - count
  let scaled : Nat × Nat :=
    if 0 ≤ e then (num, den * Nat.pow 10 e.toNat) else (num * Nat.pow 10 (-e).toNat, den)
  let q := scaled.1 / scaled.2
  let first := roundHalfEven scaled.1 scaled.2
  if first = q then [(q, e), (q + 1, e)] else [(q + 1, e), (q, e)]

/-- The first decimal, from `count` digits on, that reads back as the number. -/
def shortestFrom (mantissa : Nat) (exponent : Int) (count : Nat) : Nat → Nat × Int
  | 0 => (0, 0)
  | more + 1 =>
    let v := ratio mantissa exponent
    match (neighbours v.1 v.2 count).find? fun d =>
        decide (ofDecimal false d.1 d.2 = .finite false mantissa exponent) with
    | some d => d
    | none => shortestFrom mantissa exponent (count + 1) more

/-- The digits without zeros at the end, and the position of the point from their start. -/
def shortestDigits (mantissa : Nat) (exponent : Int) : Text × Int :=
  let d := shortestFrom mantissa exponent 1 17
  let ds := Text.ofNat d.1
  (Text.dropEndWhile (· == '0') ds, ds.length + d.2)

/-- An exponent with its sign and at least two digits. -/
def exponentText (e : Int) : Text :=
  let ds := Text.ofNat e.natAbs
  (if e < 0 then '-' else '+') :: (if ds.length < 2 then '0' :: ds else ds)

/-- Digits with the point at a position counted from their start. -/
def placed (ds : Text) (point : Int) : Text :=
  if point ≤ -4 ∨ 16 < point then
    match ds with
    | [] => []
    | d :: rest => (if rest = [] then [d] else d :: '.' :: rest) ++ 'e' :: exponentText (point - 1)
  else if point ≤ 0 then "0." ++ Text.fill (-point).toNat '0' ++ ds
  else
    let n := point.toNat
    if ds.length ≤ n then ds ++ Text.fill (n - ds.length) '0' ++ ".0"
    else ds.take n ++ '.' :: ds.drop n

/-- The shortest text that reads back as the number. -/
def toText : Binary64 → Text
  | .nan => "nan"
  | .infinite negative => if negative then "-inf" else "inf"
  | .finite negative m e =>
    let body : Text := if m = 0 then "0.0" else placed (shortestDigits m e).1 (shortestDigits m e).2
    if negative then '-' :: body else body

end Binary64

end ChangeFeed
