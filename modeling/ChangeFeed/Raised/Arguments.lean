import ChangeFeed.Value.Literal
import ChangeFeed.Value.Misuse

/-!
The arguments that an error is raised with.

Some kinds of errors take only so many arguments, and only of some kinds. An error that gets others
is not raised, but something is wrong with its arguments instead.
-/

namespace ChangeFeed.Raised

/-- Why an error cannot have the arguments that it is given. -/
inductive Problem where
  /-- There are too many arguments or too few, or one is of the wrong kind. -/
  | misuse (m : Misuse)
  /-- The count of what has been written is too large. -/
  | written
  /-- There is nothing to group. -/
  | noErrors
  /-- What is to be grouped is no error. -/
  | notErrors
  /-- There is no kind of errors with this name. -/
  | unknownKind (name : Text)
  deriving DecidableEq, Repr

namespace Problem

/-- The kind of error, as reports name it. -/
def kind : Problem → Text
  | misuse m => m.kind
  | written | noErrors | notErrors => "ValueError"
  | unknownKind _ => "AttributeError"

/-- The text of the error. -/
def message : Problem → Text
  | misuse m => m.message
  | written => Misuse.hugePosition.message
  | noErrors => "second argument (exceptions) must be a non-empty sequence"
  | notErrors => "Item 0 of second argument (exceptions) is not an exception"
  | unknownKind name => "module 'builtins' has no attribute '" ++ name ++ ['\'']

/-- The arguments are others than the ones that are asked for. -/
def arguments (message : Text) : Problem := misuse (.arguments message)

end Problem

/-- What is raised in place of an error that takes `wanted` arguments and gets `given` ones. -/
def wrongCount (receiver wanted : Text) (given : Nat) : Problem :=
  .arguments (receiver ++ " takes " ++ wanted ++ " arguments (" ++ Text.ofNat given ++ " given)")

/-- The kind of a value, as a request for a text names it. -/
def shortKind (v : Value) : Text := if v = .null then "None" else v.kindName

/-- The text that the argument at a place has to be; `receiver` is who asks for it. -/
def textAt (receiver : Text) (place : Nat) : Value → Except Problem Text
  | .text t => .ok t
  | v =>
    .error (.arguments
      (receiver ++ "argument " ++ Text.ofNat place ++ " must be str, not " ++ shortKind v))

/-- Whether a whole number can be a position. -/
def isPosition (n : Int) : Bool := -0x8000000000000000 ≤ n && n < 0x8000000000000000

/-- The position that an argument has to be. -/
def position (v : Value) : Except Problem Int := do
  let n ← v.integer.mapError Problem.misuse
  if isPosition n then return n else throw (.misuse .hugeOffset)

/-- Arguments as the text of an error shows them. -/
def plainText : List Value → Text
  | [] => []
  | [v] => v.display
  | vs => '(' :: Value.literals vs ++ [')']

end ChangeFeed.Raised
