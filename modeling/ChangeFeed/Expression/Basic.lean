import ChangeFeed.Text.Basic

/-!
Expressions, as far as their meaning as literals and the words of a message depend on them.

A constant keeps its value only where a number may be too large; a comparison keeps its left side
and whether it starts with a test of membership, because a loop over `a in b` reads as one. Names of
members, arguments of calls and the inside of comprehensions are not kept.
-/

namespace ChangeFeed

/-- A constant of an expression. -/
inductive Constant where
  | nothing
  | truth (b : Bool)
  | ellipsis
  | integer (n : Nat)
  | real
  | imaginary
  | text
  | bytes
  deriving DecidableEq, Repr

/-- What a comprehension collects its values in. -/
inductive Comprehension where
  | generator
  | set
  | dictionary
  deriving DecidableEq, Repr

/-- An expression. -/
inductive Expression where
  | name (t : Text)
  | constant (c : Constant)
  /-- A text with fields. -/
  | formatted
  | tuple (items : List Expression)
  | set (items : List Expression)
  | dictionary (entries : List Expression)
  /-- An entry of a dictionary. -/
  | entry (key value : Expression)
  /-- Another dictionary among the entries of one. -/
  | unpacked
  | comprehension (kind : Comprehension)
  | starred (e : Expression)
  | member (e : Expression)
  /-- A call; `bare` says that it has no arguments. -/
  | call (function : Expression) (bare : Bool)
  /-- A number with a sign in front of it, or what else a sign can stand in front of. -/
  | signed (negative : Bool) (e : Expression)
  | sum (subtracts : Bool) (left right : Expression)
  /-- Any other operation. -/
  | operation (operands : List Expression)
  | comparison (left : Expression) (membership : Bool)
  /-- A condition between two values. -/
  | choice (parts : List Expression)
  | function (value : Expression)
  | awaited
  | yielded
  | assignment
  deriving Repr

namespace Expression

instance : Inhabited Expression := ⟨.unpacked⟩

/-- What messages call an expression. -/
def designation : Expression → Text
  | name _ => "name"
  | constant .nothing => "None"
  | constant (.truth true) => "True"
  | constant (.truth false) => "False"
  | constant .ellipsis => "ellipsis"
  | constant _ => "literal"
  | formatted => "f-string expression"
  | tuple _ => "tuple"
  | set _ => "set display"
  | dictionary _ => "dict literal"
  | comprehension .generator => "generator expression"
  | comprehension .set => "set comprehension"
  | comprehension .dictionary => "dict comprehension"
  | starred _ => "starred"
  | member _ => "attribute"
  | call _ _ => "function call"
  | signed _ _ | sum _ _ _ | entry _ _ | unpacked | operation _ => "expression"
  | comparison _ _ => "comparison"
  | choice _ => "conditional expression"
  | function _ => "lambda"
  | awaited => "await expression"
  | yielded => "yield expression"
  | assignment => "named expression"

mutual

/-- The first part of an expression that the variable of a loop may not be, if there is one. -/
def nonTarget? : Expression → Option Expression
  | tuple items => nonTargetIn? items
  | starred e => nonTarget? e
  | comparison left membership => if membership then nonTarget? left else none
  | name _ | member _ => none
  | e => some e

/-- The first part of some expressions that the variable of a loop may not be, if there is one. -/
def nonTargetIn? : List Expression → Option Expression
  | [] => none
  | e :: es => (nonTarget? e).or (nonTargetIn? es)

end

mutual

/-- How deeply expressions are nested in an expression, counting itself. -/
def depth : Expression → Nat
  | tuple items | set items | dictionary items | operation items | choice items =>
    depthOfAll items + 1
  | entry k v => max k.depth v.depth
  | starred e | member e | call e _ | signed _ e | function e | comparison e _ => e.depth + 1
  | sum _ left right => max left.depth right.depth + 1
  | _ => 1

/-- The greatest of the depths of some expressions. -/
def depthOfAll : List Expression → Nat
  | [] => 0
  | e :: es => max e.depth (depthOfAll es)

end

/-- Words that were statements once and are functions now. -/
def formerStatements : List String := ["print", "exec"]

/-- The name of a function that was a statement once, if an expression is one. -/
def formerStatement? : Expression → Option Text
  | name t => if formerStatements.contains (String.ofList t) then some t else none
  | _ => none

end Expression

end ChangeFeed
