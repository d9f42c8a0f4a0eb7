import ChangeFeed.CommandLine.Execution
import ChangeFeed.Json.Reader

/-!
The program.

A run is a function of its arguments and of what surrounds it. Standard input describes the
surroundings as one JSON table: the answers of other programs, the variables, the directory of the
user, the files, and the directory to start from. The log and the errors go to standard error.
-/

namespace ChangeFeed

/-- The entries of a description under a key. -/
def described (key : Text) (v : Value) : Table :=
  match v with
  | .table es =>
    match Table.get? key es with
    | some (.table inner) => inner
    | _ => []
  | _ => []

/-- The names along a described path. -/
def describedNames (t : Text) : List Text := (Path.ofText t).names

/-- What stands at a path: a directory if the path ends with a slash. -/
def describedNode (path : Text) (content : Value) : Node :=
  if path.getLast? = some '/' then .directory else .file content.display

/-- The files of a description. -/
def describedFiles (v : Value) : FileTree where
  nodes := (described "files" v).map fun e =>
    let path := e.1.toValue.display
    (describedNames path, describedNode path e.2)
  working := match v with
    | .table es => ((Table.get? "directory" es).map fun d => describedNames d.display).getD []
    | _ => []

/-- The most containers of JSON that may be open at the same time in a described run. -/
def usualDepth : Nat := 985

/-- What surrounds a described run. -/
def describedSurroundings (v : Value) : Surroundings where
  answer := Program.recorded (described "answers" v)
  environment := (described "variables" v).map fun e => (e.1.toValue.display, e.2.display)
  home := match v with
    | .table es => (Table.get? "home" es).map Value.display
    | _ => none
  depth := usualDepth

/-- What a command comes to in described surroundings, and its trace. -/
def runDescribed (args : List Text) (v : Value) : CommandLine.Outcome × Trace :=
  match (CommandLine.run args).exec (describedSurroundings v) { files := describedFiles v } with
  | (.ok o, trace) => (o, trace)
  | (.error f, trace) => (.failed f, trace)

/-- What is written to standard error besides the log. -/
def errorText : CommandLine.Outcome → Text
  | .ended _ report => report
  | .misused p => "Error: " ++ p.message ++ "\n"
  | .failed f => f.kind ++ ": " ++ f.message ++ "\n"

end ChangeFeed

open ChangeFeed in
/-- Reads the surroundings, runs the command and writes what came of it. -/
def main (args : List String) : IO UInt32 := do
  let input ← (← IO.getStdin).readToEnd
  match Json.read usualDepth (if input.isEmpty then "\x7b\x7d" else input) with
  | .error f =>
    IO.eprintln (String.ofList f.message)
    return 1
  | .ok v =>
    let (outcome, trace) := runDescribed (args.map String.toList) v
    for r in trace.records do
      IO.eprintln (String.ofList (r.severity.name ++ ": " ++ r.message))
    IO.print (String.ofList trace.printed)
    IO.eprint (String.ofList (errorText outcome))
    return outcome.code.toNat.toUInt32
