import ChangeFeed.Template.Problem
import ChangeFeed.Text.Digit
import ChangeFeed.Text.Numeral

/-!
The layout of a field: filling, alignment, width, and what else a specification can ask for.

A specification is read from left to right in the same way for every value; what a value of a kind
cannot have is refused when it is laid out.
-/

namespace ChangeFeed.Template

/-- The largest number that a layout or an index may hold. -/
def maxNumber : Nat := 0x7fffffffffffffff

/-- The number at the start of a text, if there is one, and what follows it. -/
def readNumber (t : Text) : Except Problem (Option Nat × Text) :=
  let ds := t.takeWhile Text.isDecimal
  let n := Numeral.ofDigits (ds.filterMap Text.decimalValue?)
  if maxNumber < n then .error .tooManyDigits
  else .ok (if ds = [] then none else some n, t.drop ds.length)

/-- How a field is laid out. -/
structure Layout where
  fill : Char
  align : Char
  sign : Option Char
  noNegativeZero : Bool
  alternate : Bool
  width : Option Nat
  separator : Option Char
  precision : Option Nat
  type : Char
  deriving Repr

namespace Layout

/-- Whether a character says how to align. -/
def isAlign (c : Char) : Bool := c == '<' || c == '>' || c == '=' || c == '^'

/-- Whether a character asks for a sign. -/
def isSign (c : Char) : Bool := c == ' ' || c == '+' || c == '-'

/-- Whether the text starts with a character, and what follows it if so. -/
def flag (c : Char) : Text → Bool × Text
  | [] => (false, [])
  | d :: t => if d = c then (true, t) else (false, d :: t)

/-- The filling and the alignment at the start of a layout, if given. -/
def readAlign : Text → (Option Char × Option Char) × Text
  | f :: a :: t =>
    if isAlign a then ((some f, some a), t)
    else if isAlign f then ((none, some f), a :: t)
    else ((none, none), f :: a :: t)
  | [a] => if isAlign a then ((none, some a), []) else ((none, none), [a])
  | [] => ((none, none), [])

/-- The separator of thousands at the start of a text. -/
def readSeparator (t : Text) : Except Problem (Option Char × Text) :=
  let comma := flag ',' t
  let underscore := flag '_' comma.2
  if comma.1 && underscore.1 then .error .bothSeparators
  else if underscore.1 && (flag ',' underscore.2).1 then .error .bothSeparators
  else .ok (if comma.1 then some ',' else if underscore.1 then some '_' else none, underscore.2)

/-- The precision at the start of a text. -/
def readPrecision (t : Text) : Except Problem (Option Nat × Text) :=
  match t with
  | '.' :: t =>
    match readNumber t with
    | .error e => .error e
    | .ok (none, _) => .error .missingPrecision
    | .ok (some n, t) => .ok (some n, t)
  | t => .ok (none, t)

/-- Whether thousands can be separated by a mark in a number of a type. -/
def allowsSeparator (mark type : Char) : Bool :=
  "deEfFgG%\x00".toList.contains type || (mark == '_' && "boxX".toList.contains type)

/-- What a specification leaves to the kind of the value. -/
structure Defaults where
  kind : Text
  align : Char
  type : Char
  deriving Repr

/-- What a specification for texts leaves open. -/
def forText : Defaults := ⟨"str", '<', 's'⟩

/-- What a specification for whole numbers of a kind leaves open. -/
def forInteger (kind : Text) : Defaults := ⟨kind, '>', 'd'⟩

/-- What a specification for other numbers leaves open. -/
def forReal : Defaults := ⟨"float", '>', '\x00'⟩

/-- The layout that a specification describes. -/
def read (d : Defaults) (spec : Text) : Except Problem Layout := do
  let ((fill, align), t) := readAlign spec
  let (sign, t) := match t with
    | c :: r => if isSign c then (some c, r) else (none, t)
    | [] => (none, t)
  let (noNegativeZero, t) := flag 'z' t
  let (alternate, t) := flag '#' t
  let (zero, t) := if fill.isNone then flag '0' t else (false, t)
  let (width, t) ← readNumber t
  let (separator, t) ← readSeparator t
  let (precision, t) ← readPrecision t
  let type ← match t with
    | [] => pure d.type
    | [c] => pure c
    | _ => throw (.invalidSpec spec d.kind)
  if let some mark := separator then
    if !allowsSeparator mark type then throw (.separator mark type)
  return {
    fill := fill.getD (if zero then '0' else ' ')
    align := align.getD (if zero && d.align == '>' then '=' else d.align)
    sign, noNegativeZero, alternate, width, separator, precision, type }

/-- A text padded on the side or the sides that the alignment leaves free. -/
def pad (l : Layout) (t : Text) : Text :=
  let missing := l.width.getD 0 - t.length
  let left := if l.align = '>' then missing else if l.align = '^' then missing / 2 else 0
  Text.fill left l.fill ++ t ++ Text.fill (missing - left) l.fill

/-- A text laid out. -/
def apply (l : Layout) (t : Text) : Except Problem Text :=
  if l.type ≠ 's' then .error (.unknownType l.type "str")
  else match l.sign with
    | some c => .error (.signOnText c)
    | none =>
      if l.noNegativeZero then .error .zeroOnText
      else if l.alternate then .error .alternateOnText
      else if l.align = '=' then .error .equalsOnText
      else .ok (l.pad (match l.precision with
        | some n => t.take n
        | none => t))

end Layout

/-- A text laid out as a specification says; an empty specification leaves it as it is. -/
def layOutText (spec t : Text) : Except Problem Text :=
  if spec = [] then .ok t else Layout.read Layout.forText spec >>= fun l => l.apply t

end ChangeFeed.Template
