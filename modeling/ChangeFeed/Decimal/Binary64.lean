/-!
Double-precision numbers, kept exactly.

A finite number is a mantissa below 2^53 times a power of two, so reading a decimal and cutting off
a fraction are arithmetic on whole numbers and nothing is left to the machine.
-/

namespace ChangeFeed

/-- A double-precision number: `± mantissa * 2 ^ exponent`, an infinity, or not a number. -/
inductive Binary64 where
  | finite (negative : Bool) (mantissa : Nat) (exponent : Int)
  | infinite (negative : Bool)
  | nan
  deriving DecidableEq, Repr, Inhabited

namespace Binary64

/-- The least exponent of a finite number. -/
def minExponent : Int := -1074

/-- The greatest exponent of a finite number. -/
def maxExponent : Int := 971

/-- The fraction `num / den` in units of `2 ^ e`, as a fraction. -/
def inUnits (num den : Nat) (e : Int) : Nat × Nat :=
  if 0 ≤ e then (num, den * Nat.pow 2 e.toNat) else (num * Nat.pow 2 (-e).toNat, den)

/-- The whole number nearest to a fraction; a half goes to the even neighbour. -/
def roundHalfEven (num den : Nat) : Nat :=
  let q := num / den
  let r := num % den
  if 2 * r < den then q
  else if den < 2 * r then q + 1
  else if q % 2 = 0 then q else q + 1

/-- The double-precision number nearest to `± num / den`. -/
def ofRatio (negative : Bool) (num den : Nat) : Binary64 :=
  if num = 0 then .finite negative 0 minExponent
  else
    let e₀ : Int := (num.log2 : Int) - (den.log2 : Int) - 52
    let u := inUnits num den e₀
    let e₁ := if u.1 / u.2 < 0x10000000000000 then e₀ - 1 else e₀
    let e := max e₁ minExponent
    let v := inUnits num den e
    let m := roundHalfEven v.1 v.2
    let carried : Nat × Int := if m = 0x20000000000000 then (0x10000000000000, e + 1) else (m, e)
    if maxExponent < carried.2 then .infinite negative else .finite negative carried.1 carried.2

/-- The double-precision number nearest to `± digits * 10 ^ exponent`. -/
def ofDecimal (negative : Bool) (digits : Nat) (exponent : Int) : Binary64 :=
  let magnitude : Int := (Nat.toDigits 10 digits).length + exponent
  if digits = 0 then .finite negative 0 minExponent
  else if 400 < magnitude then .infinite negative
  else if magnitude < -400 then .finite negative 0 minExponent
  else if 0 ≤ exponent then ofRatio negative (digits * Nat.pow 10 exponent.toNat) 1
  else ofRatio negative digits (Nat.pow 10 (-exponent).toNat)

/-- The numerator and denominator of the magnitude of a finite number. -/
def ratio (mantissa : Nat) (exponent : Int) : Nat × Nat :=
  if 0 ≤ exponent then (mantissa * Nat.pow 2 exponent.toNat, 1)
  else (mantissa, Nat.pow 2 (-exponent).toNat)

/-- Whether a number is zero, of either sign. -/
def isZero : Binary64 → Bool
  | .finite _ m _ => m == 0
  | _ => false

/-- The whole part of a finite number. -/
def truncate? : Binary64 → Option Int
  | .finite negative m e =>
    let v := ratio m e
    let q : Int := (v.1 / v.2 : Nat)
    some (if negative then -q else q)
  | _ => none

/-- A finite number as a fraction with a sign. -/
def signedRatio? : Binary64 → Option (Int × Nat)
  | .finite negative m e =>
    let v := ratio m e
    some (if negative then -(v.1 : Int) else v.1, v.2)
  | _ => none

theorem signedRatio?_den_pos {x : Binary64} {r : Int × Nat} (h : x.signedRatio? = some r) :
    0 < r.2 := by
  cases x with
  | finite negative m e =>
    obtain rfl := Option.some.inj h
    simp only [ratio]
    split
    · exact Nat.one_pos
    · exact Nat.two_pow_pos _
  | infinite => cases h
  | nan => cases h

/-- The double-precision number nearest to `num / den`. -/
def ofSigned (num : Int) (den : Nat) : Binary64 := ofRatio (num < 0) num.natAbs den

/-- The number nearest to a sum; what is not finite stays as it is. -/
def add (x y : Binary64) : Binary64 :=
  match x.signedRatio?, y.signedRatio? with
  | some (a, b), some (c, d) => ofSigned (a * d + c * b) (b * d)
  | some _, none => y
  | none, _ => x

/-- The number nearest to a multiple; what is not finite stays as it is, and so does the sign. -/
def scale (x : Binary64) (n : Nat) : Binary64 :=
  match x with
  | .finite negative m e => ofRatio negative ((ratio m e).1 * n) (ratio m e).2
  | x => x

/-- The number with the other sign. -/
def neg : Binary64 → Binary64
  | .finite negative m e => .finite (!negative) m e
  | .infinite negative => .infinite !negative
  | .nan => .nan

end Binary64

end ChangeFeed
