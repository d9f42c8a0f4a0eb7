import ChangeFeed.Value.Misuse

/-!
What an operation asks of its arguments.

Arguments come by place or by name. Too many of them, too few, or one by a name that is not asked
for are refused before the operation does anything.
-/

namespace ChangeFeed

/-- Names in quotes with commas between them and a word in front of the last one. -/
def listed (names : List Text) : Text :=
  let quoted (t : Text) : Text := '\'' :: t ++ ['\'']
  match names.reverse with
  | [] => []
  | [a] => quoted a
  | [b, a] => quoted a ++ " and " ++ quoted b
  | last :: others =>
    Text.join ", " (others.reverse.map quoted) ++ ", and " ++ quoted last

/-- The arguments that an operation asks for: those that have to be given, and those that need
not. -/
structure Signature where
  operation : Text
  required : List Text := []
  optional : List Text := []
  /-- How many values come before the arguments without being given. -/
  receivers : Nat := 0
  deriving DecidableEq, Repr

namespace Signature

/-- What is wrong when arguments of the given names are missing. -/
def missing (s : Signature) (names : List Text) : Misuse :=
  .arguments
    (s.operation ++ "() missing " ++ Text.ofNat names.length ++ " required positional argument" ++
      (if names.length = 1 then [] else ['s']) ++ ": " ++ listed names)

/-- What is wrong when more arguments are given than an operation takes. -/
def tooMany (s : Signature) (given : Nat) : Misuse :=
  let most := s.receivers + s.required.length + s.optional.length
  let least : Text :=
    if s.optional = [] then []
    else "from ".toList ++ Text.ofNat (s.receivers + s.required.length) ++ " to ".toList
  let plural : Text := if s.optional = [] ∧ most = 1 then [] else ['s']
  let given := s.receivers + given
  .arguments
    (s.operation ++ "() takes " ++ least ++ Text.ofNat most ++ " positional argument" ++ plural ++
      " but " ++ Text.ofNat given ++
      (if given = 1 then " was given" else " were given"))

/-- Looks at a number of arguments that are given by place. -/
def checkCount (s : Signature) (given : Nat) : Except Misuse Unit :=
  if s.required.length + s.optional.length < given then .error (s.tooMany given)
  else match s.required.drop given with
    | [] => .ok ()
    | names => .error (s.missing names)

/-- Looks at arguments that are given by name. -/
def checkNames (s : Signature) (given : List Text) : Except Misuse Unit :=
  match given.find? fun k => !(s.required ++ s.optional).contains k with
  | some k =>
    .error (.arguments (s.operation ++ "() got an unexpected keyword argument '" ++ k ++ ['\'']))
  | none =>
    match s.required.filter fun k => !given.contains k with
    | [] => .ok ()
    | names => .error (s.missing names)

end Signature

end ChangeFeed
