import ChangeFeed.Ctags.Records
import ChangeFeed.Etags.Session
import ChangeFeed.Program.Command

/-!
Asking the tag program for the definitions in files.
-/

namespace ChangeFeed.Ctags

/-- The formats in which the tag program can write. -/
inductive Format where
  /-- A record in JSON for each tag. -/
  | json
  /-- A TAGS file. -/
  | etags
  deriving DecidableEq, Repr

namespace Format

/-- The name of a format in the configuration. -/
def name : Format → Text
  | json => "json"
  | etags => "etags"

/-- The format that a value names. -/
def ofValue (v : Value) : Except Failure Format :=
  if v.isText json.name then .ok json
  else if v.isText etags.name then .ok etags
  else .error (Failure.about v (.ctags (.format v)))

/-- The arguments that ask for a format. -/
def arguments : Format → List Text
  | json => ["--output-format=json", "--fields=+nKS", "-f", "-"]
  | etags => ["-e", "-f", "-"]

end Format

/-- What the configuration says about the tag program. -/
structure Client where
  program : Value
  format : Format
  limit : Value
  deriving DecidableEq, Repr

/-- The client that a configuration describes. -/
def Client.ofConfig (config : Value) : Except Failure Client := do
  let ctags ← (config.getD "ctags" (.table [])).mapError Failure.misuse
  let program ← (ctags.getD "command" (.text "ctags")).mapError Failure.misuse
  let format ← (ctags.getD "format" (.text "json")).mapError Failure.misuse
  let limit ← (ctags.getD "timeout_seconds" (.int 60)).mapError Failure.misuse
  let format ← Format.ofValue format
  return { program, format, limit }

/-- The command that lists the tags of files. -/
def Client.command (c : Client) (files : List Text) : Value :=
  .list (c.program :: (c.format.arguments ++ files).map .text)

/-- What a failed run of the tag program means. -/
def explain (c : Client) : Failure → Failure
  | .program (.exited command code stderr) =>
    match Program.told (.exited command code stderr) stderr with
    | .ok detail => .ctags (.failed c.program.display detail)
    | .error m => .misuse m
  | .program (.timedOut _ _) => .ctags (.timedOut c.program.display c.limit)
  | .program (.missing program) =>
    .ctags (.notRun c.program.display (Program.Problem.missing program).message)
  | .program (.forbidden program) =>
    .ctags (.notRun c.program.display (Program.Problem.forbidden program).message)
  | f => f

/-- The tags in the output of the tag program; no output is an empty one. -/
def readOutput (format : Format) (output : Value) : Run (List Tag) :=
  let output : Value := if output.isSet then output else .text []
  match format with
  | .json => do
    let t ← Run.ofExcept .misuse (output.textFor "splitlines")
    Run.ofExcept id (tagsOfText (← read).depth t)
  | .etags => do
    let t ← Run.ofExcept .misuse (output.textFor "split")
    let s ← Run.ofExcept .etags (Etags.parse t)
    s.warnings.forM (Run.log .warning)
    return s.tags

/-- The files that are there, out of those that are asked for by their paths. -/
def present (directory : Path) : List Value → Run (List Text)
  | [] => return []
  | .text file :: files => do
    let tree := (← get).files
    let found ← Run.ofExcept .file (tree.isFile (directory.append (.ofText file)))
    if found then return file :: (← present directory files)
    else
      Run.log .debug ("Skipping " ++ file ++ ": not in working tree")
      present directory files
  | v :: _ => throw (.misuse (.noPathPart v.kindName))

/-- The tags of files in a directory. No program is run if none of the files is there. -/
def extract (c : Client) (directory : Path) (files : List Value) : Run (List Tag) := do
  let existing ← present directory files
  if existing.isEmpty then return []
  else
    let o : Program.Options :=
      { directory := .text directory.toText, capture := true, limit := c.limit }
    let (stdout, _) ← tryCatch (Program.run (c.command existing) o) fun f => throw (explain c f)
    let tags ← readOutput c.format stdout
    Run.log .debug
      ("Extracted " ++ Text.ofNat tags.length ++ " tags from " ++ Text.ofNat existing.length ++
        " files")
    return tags

end ChangeFeed.Ctags
