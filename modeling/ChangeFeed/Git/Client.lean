import ChangeFeed.Commit.Basic
import ChangeFeed.Program.Command

/-!
Questions to git about one commit.

Every question is one command. A command that fails, or an answer that lacks what was asked for,
stops the run.
-/

namespace ChangeFeed.Git

/-- What the configuration says about git and about commit URLs. -/
structure Client where
  limit : Value
  remote : Value
  urlTemplate : Value
  deriving DecidableEq, Repr

/-- The client that a configuration describes. -/
def Client.ofConfig (config : Value) : Except Misuse Client := do
  let git ← config.getD "git" (.table [])
  let events ← config.getD "events" (.table [])
  let limit ← git.getD "timeout_seconds" (.int 30)
  let remote ← git.getD "remote" (.text "origin")
  let urlTemplate ← events.getD "commit_url_template" (.text Commit.defaultUrlTemplate)
  return { limit, remote, urlTemplate }

/-- What a failed run of git means for the question that was asked. -/
def explain (c : Client) (arguments : List Text) : Failure → Failure
  | .program (.exited command code stderr) =>
    match Program.told (.exited command code stderr) stderr with
    | .ok detail => .git (.failed arguments detail)
    | .error m => .misuse m
  | .program (.timedOut _ _) => .git (.timedOut arguments c.limit)
  | .program (.missing program) => .git (.notRun (Program.Problem.missing program).message)
  | .program (.forbidden program) => .git (.notRun (Program.Problem.forbidden program).message)
  | f => f

/-- The answer of git to a command in a directory; no answer is an empty one. -/
def ask (c : Client) (directory : Text) (arguments : List Value) : Run Value := do
  let words := (Value.texts? arguments).getD []
  let o : Program.Options := { directory := .text directory, capture := true, limit := c.limit }
  let (stdout, _) ← tryCatch (Program.run (.list (.text "git" :: arguments)) o) fun f =>
    throw (explain c words f)
  return if stdout.isSet then stdout else .text []

/-- The answer of git to a command in a directory, without blanks around it. -/
def askLine (c : Client) (directory : Text) (arguments : List Value) : Run Text := do
  let answer ← ask c directory arguments
  return Text.strip (← Run.ofExcept .misuse (answer.textFor "strip"))

/-- The diff of a commit against its parent, with one line of context. -/
def diff (c : Client) (directory : Text) (rev : Value) : Run Value :=
  ask c directory [.text "show", .text "--unified=1", rev]

/-- The full hash of a commit. -/
def commitHash (c : Client) (directory : Text) (rev : Value) : Run Text :=
  askLine c directory [.text "rev-parse", rev]

/-- The instant that a text of seconds stands for. -/
def readTime (t : Text) : Except Failure Instant :=
  match Numeral.read t with
  | .error _ => .error (.git (.time t))
  | .ok n =>
    match Instant.ofSeconds n with
    | .ok i => .ok i
    | .error (.year _) => .error (.git (.time t))
    | .error p => .error (.instant p)

/-- Name, email and time in a line with bars between them. -/
def readAuthor (line : Text) : Except Failure (Text × Text × Instant) :=
  match line.splitOn '|' with
  | [name, email, time] => (readTime time).map fun i => (name, email, i)
  | _ => .error (.git (.authorLine line))

/-- Name and email of the author of a commit, and its time. -/
def author (c : Client) (directory : Text) (rev : Value) : Run (Text × Text × Instant) := do
  let line ← askLine c directory [.text "log", .text "-1", .text "--format=%an|%ae|%at", rev]
  Run.ofExcept id (readAuthor line)

/-- The first word that directly follows a label somewhere in a text. -/
def wordBehind? (label : Text) : Text → Option Text
  | [] => none
  | c :: t =>
    match Text.rest? label (c :: t) with
    | some r =>
      match r.takeWhile fun d => !Text.isBlank d with
      | [] => wordBehind? label t
      | word => some word
    | none => wordBehind? label t

/-- The head branch and the fetch URL in a description of a remote. -/
def readRemote (remote description : Text) : Except Git.Problem (Text × Text) :=
  match wordBehind? "HEAD branch: " description, wordBehind? "Fetch URL: " description with
  | none, _ => .error (.noHeadBranch remote)
  | some _, none => .error (.noFetchUrl remote)
  | some branch, some url => .ok (branch, url)

/-- The head branch and the fetch URL of a remote, the configured one if none is given. -/
def remoteInfo (c : Client) (directory : Text) (remote : Value) : Run (Text × Text) := do
  let remote := if remote.isSet then remote else c.remote
  let answer ← ask c directory [.text "remote", .text "show", remote]
  let description ← Run.ofExcept .misuse answer.searchedText
  Run.ofExcept .git (readRemote remote.display description)

/-- All that is to be known of a commit besides its diff. -/
def commit (c : Client) (directory : Text) (rev : Value) : Run Commit := do
  let hash ← commitHash c directory rev
  let (authorName, authorEmail, time) ← author c directory rev
  let (branch, remoteUrl) ← remoteInfo c directory .null
  Run.log .debug ("Commit " ++ hash.take 8 ++ " by " ++ authorName ++ " on " ++ branch)
  return {
    hash := .text hash
    authorName := .text authorName
    authorEmail := .text authorEmail
    time
    branch := .text branch
    remoteUrl := .text remoteUrl
    urlTemplate := c.urlTemplate }

end ChangeFeed.Git
