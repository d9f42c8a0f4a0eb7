import ChangeFeed.Analyzer
import ChangeFeed.Config.Storage
import ChangeFeed.Report.Entries
import ChangeFeed.Value.Signature

/-!
Operations that are called by name.

Each takes so many arguments; with others it is not called, and nothing changes. What an operation
does with an argument of the wrong kind is its own affair: a session that starts to read anew has
forgotten what it knew before it finds that there is nothing to read.
-/

namespace ChangeFeed.Operation

/-- The operation with a name, out of those that `owner` has, once it is known to take a number of
arguments. -/
def named (owner : Text) (operations : List (String × Signature)) (name : Text) (given : Nat) :
    Except Misuse String :=
  match operations.find? fun o => o.1 == String.ofList name with
  | some (found, s) => (s.checkCount given).map fun _ => found
  | none => .error (.noMember owner name)

/-- The only argument of an operation that takes one. -/
def only (arguments : List Value) : Value := arguments.headD .null

section sessions

/-- What can be done with a session that reads a diff. -/
def diffOperations : List (String × Signature) := [
  ("parse", { operation := "UnifiedDiffParser.parse", required := ["text"], receivers := 1 }),
  ("feed", { operation := "UnifiedDiffParser.feed", required := ["line"], receivers := 1 }),
  ("reset", { operation := "UnifiedDiffParser.reset", receivers := 1 })]

/-- An operation of a reader of diffs. -/
def ofDiff (name : Text) (arguments : List Value) : Attempt Diff.Reader Failure Unit := do
  let operation ← Attempt.ofExcept .misuse
    (named "UnifiedDiffParser" diffOperations name arguments.length)
  match operation with
  | "reset" => Diff.Reader.reset
  | "feed" => do
    let line ← Attempt.ofExcept .misuse ((only arguments).textFor "endswith")
    Diff.Reader.feed line
  | _ => do
    let _ ← Diff.Reader.parse (only arguments)

/-- A reader of diffs after an operation, and what went wrong, if something did. -/
def onDiff (r : Diff.Reader) (name : Text) (arguments : List Value) :
    Diff.Reader × Option Failure :=
  match (ofDiff name arguments).exec r with
  | (.ok _, r) => (r, none)
  | (.error f, r) => (r, some f)

/-- What can be done with a session that reads a TAGS file. -/
def etagsOperations : List (String × Signature) := [
  ("parse", { operation := "EtagsParser.parse", required := ["text"], receivers := 1 }),
  ("parse_line", { operation := "EtagsParser.parse_line", required := ["line"], receivers := 1 }),
  ("to_tags", { operation := "EtagsParser.to_tags", receivers := 1 })]

/-- An operation of a session that reads a TAGS file, which returns tags if they are asked for. -/
def ofEtags (name : Text) (arguments : List Value) :
    Attempt Etags.Session Failure (Option (List Tag)) := do
  let operation ← Attempt.ofExcept .misuse
    (named "EtagsParser" etagsOperations name arguments.length)
  match operation with
  | "to_tags" => return some (← get).tags
  | "parse_line" => do
    let line ← Attempt.ofExcept .misuse ((only arguments).textFor "strip")
    ExceptT.adapt .etags (Etags.Session.feed line)
    return none
  | _ => do
    set ({} : Etags.Session)
    let t ← Attempt.ofExcept .misuse ((only arguments).textFor "split")
    ExceptT.adapt .etags (Etags.Session.feedText t)
    return none

/-- A session that reads a TAGS file after an operation, and what comes of it. -/
def onEtags (s : Etags.Session) (name : Text) (arguments : List Value) :
    Etags.Session × Except Failure (Option (List Tag)) := ((ofEtags name arguments).exec s).swap

end sessions

section runs

/-- An operation on a commit in a directory. -/
def aboutCommit (operation : Text) : Signature :=
  { operation, required := ["path"], optional := ["rev"], receivers := 1 }

/-- What can be asked of git. -/
def gitOperations : List (String × Signature) := [
  ("show", aboutCommit "GitClient.show"),
  ("commit_hash", aboutCommit "GitClient.commit_hash"),
  ("author", aboutCommit "GitClient.author"),
  ("remote_info", {
    operation := "GitClient.remote_info"
    required := ["path"]
    optional := ["remote"]
    receivers := 1 }),
  ("metadata", aboutCommit "GitClient.metadata")]

/-- A question to git about a directory. -/
def onGit (c : Git.Client) (directory name : Text) (arguments : List Value) : Run Value := do
  let operation ← Run.ofExcept .misuse
    (named "GitClient" gitOperations name (arguments.length + 1))
  let rev := arguments.headD (.text "HEAD")
  match operation with
  | "show" => Git.diff c directory rev
  | "commit_hash" => return .text (← Git.commitHash c directory rev)
  | "author" => do
    let (name, email, time) ← Git.author c directory rev
    return Value.ofTexts [name, email, time.toText]
  | "remote_info" => do
    let (branch, url) ← Git.remoteInfo c directory (only arguments)
    return Value.ofTexts [branch, url]
  | _ => do
    let commit ← Git.commit c directory rev
    return .table (← Run.ofExcept id commit.entries)

/-- An operation on a commit, both with defaults. -/
def analysis (operation : Text) : Signature :=
  { operation, optional := ["path", "rev"], receivers := 1 }

/-- What an analyzer can be asked for. -/
def analyzerOperations : List (String × Signature) := [
  ("hunks", analysis "ChangeEventService.hunks"),
  ("tags", analysis "ChangeEventService.tags"),
  ("collect", analysis "ChangeEventService.collect")]

/-- An analysis of a commit in a directory. -/
def onAnalyzer (a : Analyzer) (directory name : Text) (arguments : List Value) : Run Value := do
  let operation ← Run.ofExcept .misuse
    (named "ChangeEventService" analyzerOperations name (arguments.length + 1))
  let rev := arguments.headD (.text "HEAD")
  match operation with
  | "hunks" => return .list ((← a.hunks directory rev).map fun h => .table h.entries)
  | "tags" => return .list ((← a.tags directory rev).map fun t => .table t.entries)
  | _ => return .table (← a.collect directory rev).entries

/-- What can be done with the configuration without a value for it. -/
def configOperations : List (String × Signature) := [
  ("path", { operation := "get_config_path" }), ("load", { operation := "load_config" })]

/-- The path of the configuration file, or the configuration itself. -/
def onConfig (name : Text) (arguments : List Value) : Run Value := do
  let operation ← Run.ofExcept .misuse (named "module" configOperations name arguments.length)
  match operation with
  | "path" => return .text (← Config.path).toText
  | _ => Config.load

/-- How a command is run. -/
def commandSignature : Signature where
  operation := "run_command"
  optional := ["cwd", "capture_output", "check", "log_stderr", "timeout"]

/-- The output and the code of a command with options by name. -/
def onCommand (command : Value) (options : Table) : Run Value := do
  Run.ofExcept .misuse (commandSignature.checkNames (Key.texts options.keys))
  let flag (key : Text) (default : Bool) : Bool :=
    ((options.get? (.text key)).map Value.isSet).getD default
  let (stdout, code) ← Program.run command {
    directory := (options.get? "cwd").getD (.text ".")
    capture := flag "capture_output" false
    check := flag "check" true
    logErrors := flag "log_stderr" true
    limit := (options.get? "timeout").getD .null }
  return .list [stdout, code]

end runs

end ChangeFeed.Operation
