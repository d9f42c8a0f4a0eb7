import ChangeFeed.Value.Misuse

/-!
How the run of another program can go wrong.
-/

namespace ChangeFeed.Program

/-- The signals that have a name, by number. -/
def signalNames : List (Nat × String) := [
  (1, "SIGHUP"), (2, "SIGINT"), (3, "SIGQUIT"), (4, "SIGILL"), (5, "SIGTRAP"), (6, "SIGABRT"),
  (7, "SIGBUS"), (8, "SIGFPE"), (9, "SIGKILL"), (10, "SIGUSR1"), (11, "SIGSEGV"), (12, "SIGUSR2"),
  (13, "SIGPIPE"), (14, "SIGALRM"), (15, "SIGTERM"), (16, "SIGSTKFLT"), (17, "SIGCHLD"),
  (18, "SIGCONT"), (19, "SIGSTOP"), (20, "SIGTSTP"), (21, "SIGTTIN"), (22, "SIGTTOU"),
  (23, "SIGURG"), (24, "SIGXCPU"), (25, "SIGXFSZ"), (26, "SIGVTALRM"), (27, "SIGPROF"),
  (28, "SIGWINCH"), (29, "SIGIO"), (30, "SIGPWR"), (31, "SIGSYS"), (34, "SIGRTMIN"),
  (64, "SIGRTMAX")]

/-- The kinds of errors by which a request is refused. -/
inductive RefusalKind where
  | type
  | value
  | overflow
  | encoding
  deriving DecidableEq, Repr

/-- Why a request cannot be made as it is: its limit is no number of seconds, or a word of it cannot
be handed over. -/
structure Refusal where
  reason : RefusalKind
  message : Text
  deriving DecidableEq, Repr

/-- The kind of error, as reports name it. -/
def Refusal.kind (r : Refusal) : Text :=
  match r.reason with
  | .type => "TypeError"
  | .value => "ValueError"
  | .overflow => "OverflowError"
  | .encoding => "UnicodeEncodeError"

/-- What came of a run that did not succeed. -/
inductive Problem where
  /-- The program ended with a code other than zero; a negative code is a signal. -/
  | exited (command code stderr : Value)
  | timedOut (command : Value) (limit : Value)
  /-- There is no such program. -/
  | missing (program : Text)
  /-- The program may not be run. -/
  | forbidden (program : Text)
  /-- The request could not be made. -/
  | refused (r : Refusal)
  /-- The user broke off the run. -/
  | interrupted
  deriving DecidableEq, Repr

namespace Problem

/-- How a program ended, by its code. -/
def ending (code : Int) : Text :=
  if code < 0 then
    match signalNames.lookup code.natAbs with
    | some name => "died with <Signals." ++ name ++ ": " ++ Text.ofNat code.natAbs ++ ">."
    | none => "died with unknown signal " ++ Text.ofNat code.natAbs ++ "."
  else "returned non-zero exit status " ++ Text.ofInt code ++ "."

/-- The whole number that a code stands for in messages. -/
def codeNumber (code : Value) : Except Misuse Int :=
  match code with
  | .int n => .ok n
  | .bool b => .ok (if b then 1 else 0)
  | .real x => .ok (x.truncate?.getD 0)
  | v => .error (if v.isSet then .notOrdered ['<'] v.kindName "int" else .notNumber v.kindName)

/-- What keeps the text of the error from being made, if something does. -/
def obstacle? : Problem → Option Misuse
  | exited _ code _ =>
    match codeNumber code with
    | .ok _ => none
    | .error m => some m
  | _ => none

/-- A command as messages show it. -/
def shown (command : Value) : Text := "Command '" ++ command.display ++ "' "

/-- The kind of error, as reports name it. -/
def kind : Problem → Text
  | exited _ _ _ => "CalledProcessError"
  | timedOut _ _ => "TimeoutExpired"
  | missing _ => "FileNotFoundError"
  | forbidden _ => "PermissionError"
  | refused r => r.kind
  | interrupted => "KeyboardInterrupt"

/-- The text of the error. -/
def message : Problem → Text
  | exited command code _ =>
    match codeNumber code with
    | .ok n => shown command ++ ending n
    | .error m => m.message
  | timedOut command limit => shown command ++ "timed out after " ++ limit.display ++ " seconds"
  | missing program => "[Errno 2] No such file or directory: " ++ Text.quoted program
  | forbidden program => "[Errno 13] Permission denied: " ++ Text.quoted program
  | refused r => r.message
  | interrupted => []

end Problem

end ChangeFeed.Program
