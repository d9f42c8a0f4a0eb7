import ChangeFeed.ExitCode
import ChangeFeed.Raised.Family

/-!
Errors that are raised by the name of their kind, with any arguments.

The text of an error shows its arguments, unless its kind is of a family with texts of its own. The
exit code depends on the kind alone, unless the arguments choose it.
-/

namespace ChangeFeed

/-- An error by the name of its kind, with the arguments it is raised with. -/
structure Raised where
  kind : Text
  args : List Value
  deriving DecidableEq, Repr

namespace Raised

/-- The kinds of errors that have no texts of their own. -/
def plainKinds : List String := [
  "ArithmeticError", "AssertionError", "AttributeError", "BaseException", "BufferError",
  "BytesWarning", "DeprecationWarning", "EOFError", "EncodingWarning", "Exception",
  "FloatingPointError", "FutureWarning", "GeneratorExit", "ImportError", "ImportWarning",
  "IndexError", "JSONDecodeError", "KeyError", "KeyboardInterrupt", "LookupError", "MemoryError",
  "ModuleNotFoundError", "NameError", "NotImplementedError", "OverflowError",
  "PendingDeprecationWarning", "RecursionError", "ReferenceError", "ResourceWarning",
  "RuntimeError", "RuntimeWarning", "StopAsyncIteration", "StopIteration", "SyntaxWarning",
  "SystemError", "SystemExit", "TypeError", "UnboundLocalError", "UnicodeDecodeError",
  "UnicodeEncodeError", "UnicodeError", "UnicodeTranslateError", "UnicodeWarning", "UserWarning",
  "ValueError", "Warning", "ZeroDivisionError"]

/-- Whether there is a kind of errors with a name. -/
def isKnown (kind : Text) : Bool :=
  ExitCode.isDeclared kind || isAmong (plainKinds ++ systemKinds ++ programTextKinds ++ groupKinds)
    kind

/-- The arguments that a value lists for an error. -/
def argumentsOf (kind : Text) (args : Value) : Except Problem (List Value) :=
  match args.elements with
  | .ok vs => .ok vs
  | .error _ =>
    let owner : Text := if ExitCode.isDeclared kind then "defevents.exit_codes." else []
    .error (.arguments
      (owner ++ kind ++ "() argument after * must be an iterable, not " ++ args.kindName))

/-- The error of a kind and with arguments that values give. -/
def ofValues (kind args : Value) : Except Problem Raised := do
  match kind with
  | .text name =>
    if isKnown name then return ⟨name, ← argumentsOf name args⟩ else throw (.unknownKind name)
  | v => throw (.arguments ("attribute name must be string, not '" ++ v.kindName ++ ['\'']))

/-- The text of an error of a declared kind, which takes a message; the general one also takes an
exit code. -/
def declaredText (kind : Text) (args : List Value) : Except Problem Text :=
  let isGeneral := kind == "CommandError".toList
  match args with
  | [] =>
    .error (.arguments (kind ++ ".__init__() missing 1 required positional argument: 'message'"))
  | message :: others =>
    if others.length ≤ (if isGeneral then 1 else 0) then .ok message.display
    else
      let allowed : Text := if isGeneral then "from 2 to 3".toList else ['2']
      .error (.arguments
        (kind ++ ".__init__() takes " ++ allowed ++ " positional arguments but " ++
          Text.ofNat (args.length + 1) ++ " were given"))

/-- The text of the error. -/
def text (r : Raised) : Except Problem Text :=
  if ExitCode.isDeclared r.kind then declaredText r.kind r.args
  else if r.kind = "JSONDecodeError".toList then .ok "m: line 1 column 1 (char 0)"
  else if isAmong systemKinds r.kind then systemText r.kind r.args
  else if isAmong programTextKinds r.kind then programText r.args
  else if isAmong groupKinds r.kind then groupText r.args
  else if r.kind = "UnicodeEncodeError".toList then encodeText r.args
  else if r.kind = "UnicodeDecodeError".toList then decodeText r.args
  else if r.kind = "UnicodeTranslateError".toList then unmappedText r.args
  else match r.kind == "KeyError".toList, r.args with
    | true, [v] => .ok v.literal
    | _, vs => .ok (plainText vs)

/-- The exit code: the one that the arguments choose, or the one of the kind. -/
def exitCode (r : Raised) : Value :=
  let own := if r.kind = "CommandError".toList then r.args[1]? else none
  own.getD (.int (ExitCode.ofKind r.kind))

end Raised

end ChangeFeed
