import ChangeFeed.Program.Problem

/-!
Requests to run other programs, and what may come of them.

Answers may have been recorded beforehand. A table holds what came of each request: for git under
the question that was asked, and for any other program under the name of the tag program.
-/

namespace ChangeFeed.Program

/-- A program to be run with its arguments, in a directory, for a limited time. The command is the
list of the words, or a text that stands for its characters. -/
structure Request where
  command : Value
  directory : Value
  limit : Value
  deriving DecidableEq, Repr

/-- What came of a request. -/
inductive Answer where
  /-- The program ended with a code. What it wrote is null if it is not known; texts and a whole
  number are to be expected, but a record may have anything in their place. -/
  | finished (stdout stderr code : Value)
  | timedOut
  | missing
  | forbidden
  /-- The request cannot be made with these words or this limit. -/
  | refused (r : Refusal)
  /-- The user broke off the run. -/
  | interrupted
  deriving DecidableEq, Repr

/-- The ways in which a run can break off, by name. -/
def breaks : List (String × Answer) := [
  ("timeout", .timedOut), ("missing", .missing), ("permission", .forbidden),
  ("interrupt", .interrupted)]

/-- The answer that a table describes. -/
def Answer.ofTable (t : Table) : Answer :=
  let broken := match t.get? "raise" with
    | some (.text name) => breaks.lookup (String.ofList name)
    | _ => none
  let field (key : Text) (default : Value) := (t.get? key).getD default
  broken.getD
    (.finished (field "stdout" (.text [])) (field "stderr" (.text []))
      (field "returncode" (.int 0)))

/-- The key of the answer to a request. -/
def Request.key (r : Request) : Text :=
  match r.command.elements with
  | .ok (.text program :: .text question :: _) =>
    if program = "git".toList then question else "ctags"
  | _ => "ctags"

/-- The answer to a request in a table of answers; a program of which nothing is known ends well and
writes nothing. -/
def recorded (answers : Table) (r : Request) : Answer :=
  match answers.get? r.key with
  | some (.table t) => .ofTable t
  | _ => .ofTable []

end ChangeFeed.Program
