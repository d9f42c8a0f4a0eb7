import ChangeFeed.Run
import ChangeFeed.Text.Blank

/-!
Running a command: with a record of what went wrong, and a failure unless the caller asks for none.
-/

namespace ChangeFeed.Program

/-- How a command is run. -/
structure Options where
  directory : Value := .text "."
  /-- Whether the output of the program is wanted. -/
  capture : Bool := false
  /-- Whether an unsuccessful run is a failure. -/
  check : Bool := true
  /-- Whether errors that the program reports go to the log. -/
  logErrors : Bool := true
  limit : Value := .null
  deriving DecidableEq, Repr

/-- The output and the code of a run that could not even start. -/
def noResult : Value × Value := (.null, .int (-1))

/-- What a program has reported, without blanks around it; null stands for nothing. -/
def reported (stderr : Value) : Except Misuse Text :=
  if stderr.isSet then (stderr.textFor "strip").map Text.strip else .ok []

/-- What there is to tell about a program that failed: what it reported, or else the problem. -/
def told (p : Problem) (stderr : Value) : Except Misuse Text := do
  let reported ← reported stderr
  if reported ≠ [] then return reported
  else match p.obstacle? with
    | some m => throw m
    | none => return p.message

/-- Whether a code says that all went well. -/
def isSuccess (code : Value) : Bool := Value.sameKey code (.int 0)

/-- What is done about a program that could not be run to its end. -/
def notRun (o : Options) (shown : Text) (p : Problem) : Run (Value × Value) := do
  Run.log .error
    ("An unexpected error occurred while running command '" ++ shown ++ "': " ++ p.message)
  if o.check then throw (.program p) else return noResult

/-- What is done about a program that ended with a code other than zero. -/
def ended (o : Options) (command : Value) (shown : Text) (stdout stderr code : Value) :
    Run (Value × Value) := do
  if o.logErrors then
    let told ← Run.ofExcept .misuse (reported stderr)
    if told != [] then Run.log .error told
  if o.check then
    if o.logErrors then
      Run.log .error ("Command failed with exit code " ++ code.display ++ ": " ++ shown)
    throw (.program (.exited command code stderr))
  else return (if o.capture then stdout else .null, code)

/-- The output, if it is wanted, and the code of a command, whose words have to be texts. A command
without words is asked for as well, and then found to have no program. -/
def run (command : Value) (o : Options) : Run (Value × Value) := do
  let words ← Run.ofExcept .misuse command.words
  let shown := Text.join " " words
  Run.log .debug ("Running command in '" ++ o.directory.display ++ "': " ++ shown)
  let answer ← Run.request ⟨command, o.directory, o.limit⟩
  let _ ← Run.ofExcept .misuse command.first
  match answer with
  | .finished stdout stderr code =>
    if isSuccess code then return (if o.capture then stdout else .null, code)
    else ended o command shown stdout stderr code
  | .timedOut =>
    if o.limit.fits then notRun o shown (.timedOut command o.limit)
    else throw (.numeral .tooLarge)
  | .missing => notRun o shown (.missing (words.headD []))
  | .forbidden => notRun o shown (.forbidden (words.headD []))
  | .refused r => throw (.program (.refused r))
  | .interrupted => throw (.program .interrupted)

end ChangeFeed.Program
