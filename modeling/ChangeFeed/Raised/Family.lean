import ChangeFeed.Raised.Arguments

/-!
Families of errors whose texts are made of certain arguments.

An error of the system tells a number, a reason and up to two files. An error in the text of a
program tells the file and the line, an error of an encoding the characters that do not fit.
-/

namespace ChangeFeed.Raised

/-- Whether a kind is among some names. -/
def isAmong (names : List String) (kind : Text) : Bool := names.contains (String.ofList kind)

section system

/-- The names of the general kind of errors of the system. -/
def generalSystemKinds : List String := ["OSError", "IOError", "EnvironmentError"]

/-- The kinds of errors of the system. -/
def systemKinds : List String :=
  generalSystemKinds ++ [
    "BlockingIOError", "ChildProcessError", "BrokenPipeError", "ConnectionError",
    "ConnectionAbortedError", "ConnectionRefusedError", "ConnectionResetError", "FileExistsError",
    "FileNotFoundError", "InterruptedError", "IsADirectoryError", "NotADirectoryError",
    "PermissionError", "ProcessLookupError", "TimeoutError"]

/-- The numbers of operations that would have to wait. -/
def waitingNumbers : List Int := [11, 114, 115]

/-- Whether an error of the system is about an operation that would have to wait. -/
def isWaiting (kind : Text) (number : Value) : Bool :=
  kind == "BlockingIOError".toList ||
    (isAmong generalSystemKinds kind && waitingNumbers.any fun n => number == .int n)

/-- Whether a value is a number that counts what has been written; not all numbers can. -/
def isCount : Value → Except Problem Bool
  | .bool _ => .ok true
  | .int n => if isPosition n then .ok true else .error .written
  | .real x => .error (.misuse (.notInteger (Value.real x).kindName))
  | _ => .ok false

/-- The files that an error of the system tells about, after its number and its reason. If the
operation would have to wait, a number in the place of the first file is no file. -/
def fileText (waiting : Bool) : List Value → Except Problem Text
  | [] | .null :: _ => .ok []
  | file :: others => do
    if ← if waiting then isCount file else pure false then return []
    match others[1]?.getD .null with
    | .null => return ": " ++ file.literal
    | other => return ": " ++ file.literal ++ " -> ".toList ++ other.literal

/-- The text of an error of the system. -/
def systemText (kind : Text) : List Value → Except Problem Text
  | number :: reason :: files =>
    if files.length ≤ 3 then
      (fileText (isWaiting kind number) files).map fun t =>
        "[Errno ".toList ++ number.display ++ "] ".toList ++ reason.display ++ t
    else .ok (plainText (number :: reason :: files))
  | vs => .ok (plainText vs)

end system

section programText

/-- The kinds of errors in the text of a program. -/
def programTextKinds : List String := ["SyntaxError", "IndentationError", "TabError"]

/-- The place of an error in the text of a program: the last name in the path of its file and the
number of its line, as far as they are given. A number that is too large is shown as minus one. -/
def placeText (file line : Value) : Text :=
  let name : List Text := match file with
    | .text t => [((t.splitOn '/').getLast?).getD []]
    | _ => []
  let number : List Text := match line with
    | .int n => ["line ".toList ++ Text.ofInt (if isPosition n then n else -1)]
    | _ => []
  match name ++ number with
  | [] => []
  | parts => " (".toList ++ Text.join ", " parts ++ [')']

/-- The text of an error in the text of a program. -/
def programText (args : List Value) : Except Problem Text := do
  let message := (args.headD .null).display
  match args with
  | [_, place] =>
    let details ← place.elements.mapError .misuse
    match details with
    | file :: line :: _ :: _ :: [] | file :: line :: _ :: _ :: [_, _] =>
      return message ++ placeText file line
    | _ :: _ :: _ :: _ :: [_] =>
      throw (.arguments "end_offset must be provided when end_lineno is provided")
    | _ =>
      let wanted : Text := if details.length < 4 then "at least 4".toList else "at most 6".toList
      throw (wrongCount "function" wanted details.length)
  | _ => return message

end programText

section encoding

/-- What is told about the characters of a text that do not fit, from one position to another. -/
def charactersText (action t : Text) (start stop : Int) (reason : Text) : Text :=
  let place (n : Int) : Text := Text.ofInt n
  match if 0 ≤ start ∧ stop = start + 1 then t[start.toNat]? else none with
  | some c =>
    action ++ " character '" ++ Text.codeEscape c.toNat ++ "' in position " ++ place start ++
      ": " ++ reason
  | none =>
    action ++ " characters in position " ++ place start ++ "-" ++ place (stop - 1) ++ ": " ++ reason

/-- The text of an error about characters that an encoding does not have. -/
def encodeText : List Value → Except Problem Text
  | [encoding, t, start, stop, reason] => do
    let encoding ← textAt [] 1 encoding
    let t ← textAt [] 2 t
    let start ← position start
    let stop ← position stop
    let reason ← textAt [] 5 reason
    return charactersText ('\'' :: encoding ++ "' codec can't encode".toList) t start stop reason
  | vs => .error (wrongCount "function" "exactly 5" vs.length)

/-- The text of an error about characters that cannot be replaced. -/
def unmappedText : List Value → Except Problem Text
  | [t, start, stop, reason] => do
    let t ← textAt [] 1 t
    let start ← position start
    let stop ← position stop
    let reason ← textAt [] 4 reason
    return charactersText "can't translate" t start stop reason
  | vs => .error (wrongCount "function" "exactly 4" vs.length)

/-- An error about bytes that an encoding does not have; no value consists of bytes. -/
def decodeText : List Value → Except Problem Text
  | [encoding, t, start, stop, reason] => do
    let _ ← textAt [] 1 encoding
    let _ ← position start
    let _ ← position stop
    let _ ← textAt [] 5 reason
    throw (.arguments ("a bytes-like object is required, not '" ++ t.kindName ++ ['\'']))
  | vs => .error (wrongCount "function" "exactly 5" vs.length)

end encoding

section group

/-- The kinds of errors that group others. -/
def groupKinds : List String := ["ExceptionGroup", "BaseExceptionGroup"]

/-- Who takes the arguments of an error that groups others. -/
def groupReceiver : Text := "BaseExceptionGroup.__new__()"

/-- A group of errors; no value is an error. -/
def groupText : List Value → Except Problem Text
  | [message, errors] => do
    let _ ← textAt (groupReceiver ++ [' ']) 1 message
    match errors with
    | .list [] | .text [] => throw .noErrors
    | .list _ | .text _ => throw .notErrors
    | _ => throw (.arguments "second argument (exceptions) must be a sequence")
  | vs => .error (wrongCount groupReceiver "exactly 2" vs.length)

end group

end ChangeFeed.Raised
