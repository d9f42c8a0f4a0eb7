import ChangeFeed.Decimal.Shortest

/-!
Decimals with a chosen number of digits.

A number is rounded to some digits in all, or to some digits behind the point; a tie goes to the
even neighbour. The digits, which end in no zero, are then placed around the point, and zeros stand
wherever the chosen form reaches beyond them.
-/

namespace ChangeFeed

/-- Decimal digits, and how many of them stand in front of the point: none if it is not positive. -/
structure Decimal where
  digits : Text
  point : Int
  deriving DecidableEq, Repr

namespace Decimal

/-- A decimal from all its digits, without the zeros at their end. -/
def ofDigits (n : Nat) (exponent : Int) : Decimal :=
  let ds := Text.ofNat n
  ⟨Text.dropEndWhile (· == '0') ds, ds.length + exponent⟩

/-- The decimal zero. -/
def zero : Decimal := ⟨['0'], 1⟩

/-- Whether a decimal is zero. -/
def isZero (d : Decimal) : Bool := d.digits == [] || d.digits == ['0']

/-- The nearest decimal of `count` digits to `num / den`. -/
def significant (num den count : Nat) : Decimal :=
  if num = 0 then zero
  else
    let e := Binary64.pointPosition num den - count
    let n :=
      if 0 ≤ e then Binary64.roundHalfEven num (den * Nat.pow 10 e.toNat)
      else Binary64.roundHalfEven (num * Nat.pow 10 (-e).toNat) den
    ofDigits n e

/-- The nearest decimal to `num / den` with `count` digits behind the point. -/
def behindPoint (num den count : Nat) : Decimal :=
  let n := Binary64.roundHalfEven (num * Nat.pow 10 count) den
  if num = 0 then zero
  else if n = 0 then ⟨[], -count⟩
  else ofDigits n (-count)

/-- The fewest digits that read back as the number. -/
def shortest (mantissa : Nat) (exponent : Int) : Decimal :=
  if mantissa = 0 then zero
  else
    let s := Binary64.shortestDigits mantissa exponent
    ⟨s.1, s.2⟩

/-- The digit at a place counted from the first one, zero where there is none. -/
def digitAt (d : Decimal) (place : Int) : Char :=
  if place < 0 then '0' else d.digits.getD place.toNat '0'

/-- The digits from one place up to another one. -/
def digitsBetween (d : Decimal) (start stop : Int) : Text :=
  (List.range (stop - start).toNat).map fun (i : Nat) => d.digitAt (start + i)

/-- The digits around a point, at least up to the place `stop`; a point with nothing behind it is
dropped unless it is to be `kept`. -/
def around (d : Decimal) (point stop : Int) (kept : Bool) : Text :=
  let front := d.digitsBetween (if point ≤ 0 then point - 1 else 0) point
  let back := d.digitsBetween point (max stop point)
  if back = [] ∧ kept = false then front else front ++ '.' :: back

/-- The decimal with all its digits in place; at least one behind the point if that is `whole`. -/
def positional (d : Decimal) (stop : Int) (whole kept : Bool) : Text :=
  d.around d.point (if whole then max stop (d.point + 1) else stop) kept

/-- The decimal with one digit in front of the point, and an exponent behind the digits. -/
def scientific (d : Decimal) (stop : Int) (kept : Bool) : Text :=
  d.around 1 stop kept ++ 'e' :: Binary64.exponentText (d.point - 1)

end Decimal

end ChangeFeed
