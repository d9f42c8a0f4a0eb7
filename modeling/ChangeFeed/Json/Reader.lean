import ChangeFeed.Failure
import ChangeFeed.Json.Str

/-!
Reading JSON.

Besides what JSON allows, the names of the values that are no finite numbers are read. Of two
entries of a table with the same key the later one counts, in the place of the earlier one. A fault
is placed where the text stops to be what it could be. How many containers may stand inside each
other is for the caller to say: an interpreter has a limit, and it depends on where it reads.
-/

namespace ChangeFeed.Json

/-- Whether a character may stand between two tokens. -/
def isSpace (c : Char) : Bool := c == ' ' || c == '\t' || c == '\n' || c == '\r'

/-- A text without the space at its start. -/
def skip (t : Text) : Text := t.dropWhile isSpace

/-- The digits of the whole part of a number, and what follows them. -/
def scanWhole? : Text → Option (Text × Text)
  | [] => none
  | c :: t =>
    if c = '0' then some (['0'], t)
    else if Text.isAsciiDigit c then some ((c :: t).span Text.isAsciiDigit)
    else none

/-- The digits behind a decimal point, and what follows them. -/
def scanFraction? : Text → Option (Text × Text)
  | '.' :: t =>
    match t.span Text.isAsciiDigit with
    | ([], _) => none
    | r => some r
  | _ => none

/-- Whether an exponent is negative, its digits, and what follows them. -/
def scanExponent? : Text → Option (Bool × Text × Text)
  | e :: t =>
    if e = 'e' ∨ e = 'E' then
      let (negative, t) := match t with
        | '-' :: t => (true, t)
        | '+' :: t => (false, t)
        | t => (false, t)
      match t.span Text.isAsciiDigit with
      | ([], _) => none
      | (ds, t) => some (negative, ds, t)
    else none
  | [] => none

/-- The number that digits stand for. -/
def digitsValue (ds : Text) : Nat := Numeral.ofDigits (ds.map fun c => c.toNat - 48)

/-- The number that a text starts with, and what follows it. -/
def scanNumber (t : Text) : Except Stuck (Value × Text) :=
  let (negative, u) := match t with
    | '-' :: u => (true, u)
    | u => (false, u)
  match scanWhole? u with
  | none => .error (.fault .value t)
  | some (whole, u) =>
    let fraction := scanFraction? u
    let u := (fraction.map Prod.snd).getD u
    let exponent := scanExponent? u
    let rest := (exponent.map fun e => e.2.2).getD u
    if fraction.isNone && exponent.isNone then
      match Numeral.ofDecimals? whole with
      | .error p => .error (.number p)
      | .ok n => .ok (.int (if negative then -(n : Int) else n), rest)
    else
      let decimals := (fraction.map Prod.fst).getD []
      let power : Int := match exponent with
        | some (true, ds, _) => -(digitsValue ds : Int)
        | some (false, ds, _) => digitsValue ds
        | none => 0
      .ok (.real (.ofDecimal negative (digitsValue (whole ++ decimals)) (power - decimals.length)),
        rest)

/-- The values that have a name. -/
def named : List (String × Value) := [
  ("null", .null), ("true", .bool true), ("false", .bool false), ("NaN", .real .nan),
  ("Infinity", .real (.infinite false)), ("-Infinity", .real (.infinite true))]

/-- The named value that a text starts with, and what follows it. -/
def scanNamed? (t : Text) : Option (Value × Text) :=
  named.findSome? fun n => (Text.rest? n.1.toList t).map (n.2, ·)

mutual

/-- The value that a text starts with, and what follows it; inside it, `depth` containers may be
open at the same time. -/
def scanValue (depth : Nat) : Nat → Text → Except Stuck (Value × Text)
  | 0, t => .error (.fault .value t)
  | fuel + 1, t =>
    match t with
    | [] => .error (.fault .value [])
    | c :: u =>
      if c = '"' then (scanString t u).map fun r => (.ofPoints r.1, r.2)
      else if c = '\x7b' then
        match depth, skip u with
        | 0, _ => .error (.tooDeep .object)
        | _ + 1, '\x7d' :: v => .ok (.table [], v)
        | depth + 1, v => (scanEntries depth fuel [] v).map fun r => (.table r.1, r.2)
      else if c = '[' then
        match depth, skip u with
        | 0, _ => .error (.tooDeep .array)
        | _ + 1, ']' :: v => .ok (.list [], v)
        | depth + 1, v => (scanElements depth fuel v).map fun r => (.list r.1, r.2)
      else match scanNamed? t with
        | some r => .ok r
        | none => scanNumber t

/-- The elements of a list up to the bracket that closes it, and what follows. -/
def scanElements (depth : Nat) : Nat → Text → Except Stuck (List Value × Text)
  | 0, t => .error (.fault .value t)
  | fuel + 1, t =>
    match scanValue depth fuel t with
    | .error s => .error s
    | .ok (v, u) =>
      match skip u with
      | ']' :: w => .ok ([v], w)
      | ',' :: w => (scanElements depth fuel (skip w)).map fun r => (v :: r.1, r.2)
      | w => .error (.fault .comma w)

/-- The entries of a table up to the brace that closes it, put after those read before, and what
follows. -/
def scanEntries (depth : Nat) : Nat → Table → Text → Except Stuck (Table × Text)
  | 0, _, t => .error (.fault .value t)
  | fuel + 1, before, t =>
    match t with
    | '"' :: u =>
      match scanString t u with
      | .error s => .error s
      | .ok (key, u) =>
        match skip u with
        | ':' :: u =>
          match scanValue depth fuel (skip u) with
          | .error s => .error s
          | .ok (v, u) =>
            let entries := Table.set (.ofPoints key) v before
            match skip u with
            | '\x7d' :: w => .ok (entries, w)
            | ',' :: w => scanEntries depth fuel entries (skip w)
            | w => .error (.fault .comma w)
        | u => .error (.fault .colon u)
    | t => .error (.fault .propertyName t)

end

/-- The value of a whole text, which may have space around it; `depth` containers may be open at the
same time. -/
def scanDocument (depth : Nat) (t : Text) : Except Stuck Value :=
  if t.head? = some '\ufeff' then .error (.fault .byteOrderMark t)
  else match scanValue depth (2 * t.length + 2) (skip t) with
    | .error s => .error s
    | .ok (v, rest) =>
      match skip rest with
      | [] => .ok v
      | rest => .error (.fault .extra rest)

/-- The failure of reading a text. -/
def Stuck.toFailure (t : Text) : Stuck → Failure
  | fault f rest => .json (.placed f t (t.length - rest.length))
  | number p => .numeral p
  | tooDeep c => .tooDeep c

/-- The value that a text stands for, where `depth` containers may be open at the same time. -/
def read (depth : Nat) (t : Text) : Except Failure Value :=
  (scanDocument depth t).mapError (Stuck.toFailure t)

end ChangeFeed.Json
