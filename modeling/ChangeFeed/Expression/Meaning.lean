import ChangeFeed.Decimal.Binary64
import ChangeFeed.Expression.Reader

/-!
Expressions that are literals.

A literal is a constant, a number with a sign, the sum of a number and an imaginary number, a tuple,
a set or a dictionary of literals, or the empty set. What a set or the keys of a dictionary hold may
not be a set or a dictionary, also not inside a tuple.
-/

namespace ChangeFeed.Expression

/-- Why a text is no literal. -/
inductive Refusal where
  | fault (f : Fault)
  | nullCharacter
  /-- An expression in which others are nested too deeply. -/
  | tooDeep
  /-- What a set cannot hold. -/
  | unhashable (kind : Text)
  /-- A dictionary that is unpacked in another one. -/
  | unpacked
  /-- A whole number that is too large for a sum with an imaginary number. -/
  | tooLarge
  /-- An expression that is no literal. -/
  | notLiteral
  deriving DecidableEq, Repr

namespace Refusal

/-- Whether a text is no expression. -/
def isFault : Refusal → Bool
  | fault f => f ≠ .tooDeep
  | _ => false

/-- The text of the error. -/
def message : Refusal → Text
  | fault f => f.message
  | tooDeep => "maximum recursion depth exceeded during ast construction"
  | nullCharacter => "source code string cannot contain null bytes"
  | unhashable kind => "unhashable type: '" ++ kind ++ "'".toList
  | unpacked => "malformed node or string: None"
  | tooLarge => "int too large to convert to float"
  | notLiteral => "malformed node or string"

end Refusal

/-- What a literal is to a set that holds it: the kind that a set cannot hold, if there is one. -/
abbrev Hold := Option Text

/-- Looks at what a set or the keys of a dictionary have to hold. -/
def checkHeld : Hold → Except Refusal Unit
  | some kind => .error (.unhashable kind)
  | none => .ok ()

/-- Whether an expression is a number. -/
def isNumber : Expression → Bool
  | constant (.integer _) | constant .real | constant .imaginary => true
  | _ => false

/-- Looks at a sum: the left side is a number that may have a sign, the right one is imaginary. -/
def checkSum (left right : Expression) : Except Refusal Unit :=
  let number := match left with
    | signed _ e => e
    | e => e
  match number, right with
  | constant (.integer n), constant .imaginary =>
    if (Binary64.ofRatio false n 1).signedRatio?.isNone then .error .tooLarge else .ok ()
  | constant .real, constant .imaginary => .ok ()
  | _, _ => .error .notLiteral

mutual

/-- What a literal is to a set. -/
def held : Expression → Except Refusal Hold
  | constant _ => .ok none
  | tuple items => heldAll items
  | set items => do
    checkItems items
    return some "set".toList
  | call (name f) bare =>
    if bare ∧ f = "set".toList then .ok (some "set".toList) else .error .notLiteral
  | dictionary entries => do
    checkEntries entries
    return some "dict".toList
  | sum _ left right => (checkSum left right).map fun _ => none
  | signed _ e => if e.isNumber then .ok none else .error .notLiteral
  | _ => .error .notLiteral

/-- What some literals in a tuple are to a set. -/
def heldAll : List Expression → Except Refusal Hold
  | [] => .ok none
  | e :: es => do
    let first ← held e
    let others ← heldAll es
    return first.or others

/-- Looks at what a set holds. -/
def checkItems : List Expression → Except Refusal Unit
  | [] => .ok ()
  | e :: es => do
    checkHeld (← held e)
    checkItems es

/-- Looks at the entries of a dictionary. -/
def checkEntries : List Expression → Except Refusal Unit
  | [] => .ok ()
  | entry k v :: es => do
    let key ← held k
    let _ ← held v
    checkHeld key
    checkEntries es
  | _ :: _ => .error .unpacked

end

/-- How deeply expressions may be nested in a literal. -/
def maxNesting : Nat := 2945

/-- Why a text is no literal, if it is none. -/
def refusal? (t : Text) : Option Refusal :=
  if t.contains '\x00' then some .nullCharacter
  else
    match ofText? t with
    | .error f => some (.fault f)
    | .ok e =>
      if maxNesting < e.depth then some .tooDeep
      else match held e with
      | .error r => some r
      | .ok _ => none

end ChangeFeed.Expression
