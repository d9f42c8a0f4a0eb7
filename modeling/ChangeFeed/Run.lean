import ChangeFeed.Libraries
import ChangeFeed.Program.Request

/-!
Runs: operations that ask for other programs, use files and write to a log.

All that a run does is in its trace: the requests, the records that passed the threshold of the log,
what was printed, and the files as they are afterwards. The trace is there whether the run fails or
not.
-/

namespace ChangeFeed

/-- What surrounds a run and does not change. -/
structure Surroundings where
  /-- The answers of other programs. -/
  answer : Program.Request → Program.Answer
  /-- The variables. -/
  environment : List (Text × Text)
  /-- The directory of the user that the system knows, if it knows the user. -/
  home : Option Text := none
  /-- The most containers of JSON that may be open at the same time. -/
  depth : Nat
  libraries : Libraries := .usual

/-- A line of the log. -/
structure Record where
  severity : Logging.Severity
  message : Text
  deriving DecidableEq, Repr

/-- What a run has done, and the state in which it leaves files and log. -/
structure Trace where
  files : FileTree
  threshold : Nat := Logging.defaultThreshold
  format : Text := "%(levelname)s: %(message)s"
  records : List Record := []
  requests : List Program.Request := []
  printed : Text := []
  deriving DecidableEq, Repr

/-- An operation that may fail, within its surroundings and with its trace. -/
abbrev Run (α : Type) := ReaderT Surroundings (ExceptT Failure (StateM Trace)) α

namespace Run

/-- The result and the trace of a run that starts with a trace. -/
def exec {α : Type} (r : Run α) (s : Surroundings) (t : Trace) : Except Failure α × Trace :=
  ((r.run s).run).run t

/-- The result of a run that has been decided. -/
def ofExcept {ε α : Type} (toFailure : ε → Failure) : Except ε α → Run α
  | .ok a => pure a
  | .error e => throw (toFailure e)

/-- Writes a record to the log, if it reaches the threshold. -/
def log (severity : Logging.Severity) (message : Text) : Run Unit :=
  modify fun t =>
    if Logging.effective t.threshold ≤ severity.number then
      { t with records := t.records ++ [⟨severity, message⟩] }
    else t

/-- Prints a text, which has to be encoded first: nothing of it is printed if it holds a half. -/
def print (ps : CodePoints) : Run Unit := do
  let t ← ofExcept .unencodable ps.encode
  modify fun r => { r with printed := r.printed ++ t }

/-- Has another program run. -/
def request (r : Program.Request) : Run Program.Answer := do
  modify fun t => { t with requests := t.requests ++ [r] }
  return (← read).answer r

end Run

end ChangeFeed
