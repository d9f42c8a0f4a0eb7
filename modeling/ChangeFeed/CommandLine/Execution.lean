import ChangeFeed.Analyzer
import ChangeFeed.CommandLine.Command
import ChangeFeed.Config.LogSetup
import ChangeFeed.Config.Storage
import ChangeFeed.ExitCode
import ChangeFeed.Report.Output

/-!
What commands do.

A command about a commit that fails reports an error as one line of JSON; lines that it has printed
before stay printed. The commands about the configuration do not catch their failures.
-/

namespace ChangeFeed.CommandLine

/-- What came of a command. -/
inductive Outcome where
  /-- The command has ended with a code, and with a report of an error if there was one. -/
  | ended (code : Int) (report : Text)
  /-- The arguments make no sense. -/
  | misused (p : UsageProblem)
  /-- A failure has not been caught. -/
  | failed (f : Failure)
  deriving DecidableEq, Repr

namespace Outcome

/-- The exit code of arguments that make no sense. -/
def usageCode : Int := 2

/-- The exit code. -/
def code : Outcome → Int
  | ended code _ => code
  | misused _ => usageCode
  | failed _ => ExitCode.general

/-- What an interrupted command comes to. -/
def interrupted : Outcome :=
  .ended ExitCode.interrupted (Report.error "Interrupted by user" "interrupted" .null)

/-- What a command that stopped with a failure comes to. -/
def ofFailure (f : Failure) : Outcome :=
  if f = .program .interrupted then interrupted
  else if ExitCode.isDeclared f.kind then
    .ended f.exitCode (Report.error f.message f.kind (.table [("exit_code", .int f.exitCode)]))
  else .ended f.exitCode (Report.error (.text ("Command failed: " ++ f.message)) f.kind .null)

end Outcome

/-- The configuration with references turned off. -/
def withoutReferences (config : Value) : Except Misuse Value := do
  let entries ← config.entriesFor "get"
  match (Table.get? "references" entries).getD .null with
  | .table references =>
    let off := Table.set "enabled" (.bool false) references
    return .table (Table.set "references" (.table off) entries)
  | .list _ => throw (.notPosition "str")
  | v => throw (.notAssignable v.kindName)

/-- The analyzer that the configuration describes, when the log has been set up. -/
def analyzer (references : Bool) : Run Analyzer := do
  let config ← Config.load
  Config.setUpLog config
  let config ← if references then pure config else Run.ofExcept .misuse (withoutReferences config)
  Run.ofExcept id (Analyzer.ofConfig config)

/-- Prints rows as lines of JSON, or as a table for people with the given columns. -/
def printRows (pretty : Bool) (columns : List Value) (rows : List Table) : Run Unit := do
  if pretty then
    let draw := (← read).libraries.drawGrid
    Run.print (← Run.ofExcept id (Report.grid draw columns rows))
  else rows.forM fun row => do Run.print (← Run.ofExcept id (Report.line row))

/-- The columns of a table of events. -/
def eventColumns : List Value := [.text "type", .text "title", .text "time"]

/-- Prints a batch in a style. -/
def printBatch (style : EventStyle) (b : Batch) : Run Unit := do
  if style.pretty || style.byLine then
    printRows style.pretty eventColumns (b.events.map Event.entries)
  else Run.print (← Run.ofExcept id (Report.batch (style.indent.map .spaces) b))

/-- The columns of a table of hunks. -/
def hunkColumns : List Value := [
  .text "filename", .text "old_start", .text "old_end", .text "new_start", .text "new_end",
  .text "new_lines", .text "old_lines"]

/-- The columns of a table of tags. -/
def tagColumns : List Value := [
  .text "file", .text "line", .text "kind", .text "name", .text "signature"]

/-- Writes the default configuration to its file, and tells about it. -/
def writeDefaults (force : Bool) : Run Unit := do
  let p ← Config.path
  let found ← Run.ofExcept .file ((← get).files.find? p)
  if found.isSome && !force then
    Run.print
      ("Configuration already exists at " ++ p.toText ++ " (use --force to overwrite)\n")
  else
    let written ← Config.save (.table Config.defaults) (some p)
    Run.print ("Default configuration written to " ++ written.toText ++ "\n")

/-- How the program is used. -/
def usage : Text :=
  "Usage: defevents [OPTIONS] COMMAND [ARGS]...\n\nCommands:\n  config\n  events\n  hunks\n  tags\n"

/-- Prints what a command is to print. -/
def carryOut : Command → Run Unit
  | .events target style references => do
    let a ← analyzer references
    printBatch style (← a.collect target.repository (.text target.revision))
  | .hunks target pretty => do
    let a ← analyzer true
    let hs ← a.hunks target.repository (.text target.revision)
    printRows pretty hunkColumns (hs.map Hunk.entries)
  | .tags target pretty => do
    let a ← analyzer true
    let ts ← a.tags target.repository (.text target.revision)
    printRows pretty tagColumns (ts.map Tag.entries)
  | .initialConfig force => writeDefaults force
  | .showConfig pretty => do
    let config ← Config.load
    let style : Json.Style := { indent := if pretty then some (.spaces 2) else none }
    Run.print (← Run.ofExcept id (Report.document style config))
  | .configPath => do
    let p ← Config.path
    let shown := Report.document { ascii := true } (.table [("config_path", .text p.toText)])
    Run.print (← Run.ofExcept id shown)
  | .help => Run.print usage

/-- What is done about a failure of a command. -/
def settle (c : Command) (f : Failure) : Run Outcome := do
  if c.readsRepository then
    if f ≠ .program .interrupted ∧ ExitCode.isDeclared f.kind = false then
      Run.log .debug "Command failed"
    return .ofFailure f
  else return .failed f

/-- Carries out a command, and says what came of it. -/
def perform (c : Command) : Run Outcome :=
  tryCatch (carryOut c >>= fun _ => return .ended 0 []) (settle c)

/-- Runs the command that arguments ask for. -/
def run (args : List Text) : Run Outcome := do
  match Command.ofArguments (← get).files args with
  | .error (.misuse p) => return .misused p
  | .error (.failure f) => return .failed f
  | .ok c => perform c

end ChangeFeed.CommandLine
