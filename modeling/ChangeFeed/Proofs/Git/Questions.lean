import ChangeFeed.Git.Client
import ChangeFeed.Proofs.Outcome
import ChangeFeed.Proofs.Program.Outcome
import ChangeFeed.Proofs.Program.Question

/-!
# The four questions to git

What is known of a commit comes from four commands: its diff, its full hash, its author line and the
remote. `questions` lists them with the trouble that their answers make: a command that did not end
well, an author line or a description of the remote that cannot be read. `makes_diff` and
`makes_commit` say that git is asked these questions and nothing else, in this order and in turn.
-/

namespace ChangeFeed.Git

open Program (Outcome)
open Run (Makes)

namespace Client

/-- How failed commands are reported. -/
def reports (c : Client) (arguments : List Text) : Program.Reports where
  failed detail := .git (.failed arguments detail)
  timedOut := .git (.timedOut arguments c.limit)
  notRun reason := .git (.notRun reason)

def request (c : Client) (directory : Text) (arguments : List Text) : Program.Request :=
  ⟨.list (("git".toList :: arguments).map .text), .text directory, c.limit⟩

variable (c : Client) (outcome : Program.Request → Outcome) (directory rev remote : Text)

/-- The output of git, or the report of what went wrong. -/
def hear (arguments : List Text) : Except Failure Text :=
  (c.reports arguments).read ("git".toList :: arguments) c.limit
    (outcome (c.request directory arguments))

def diffArguments : List Text := ["show".toList, "--unified=1".toList, rev]

def hashArguments : List Text := ["rev-parse".toList, rev]

def authorArguments : List Text := ["log".toList, "-1".toList, "--format=%an|%ae|%at".toList, rev]

def remoteArguments : List Text := ["remote".toList, "show".toList, remote]

def hearDiff : Except Failure Text := c.hear outcome directory (diffArguments rev)

def hearHash : Except Failure Text :=
  (c.hear outcome directory (hashArguments rev)).map Text.strip

def hearAuthor : Except Failure (Text × Text × Instant) :=
  (c.hear outcome directory (authorArguments rev)).map Text.strip >>= readAuthor

def hearRemote : Except Failure (Text × Text) :=
  c.hear outcome directory (remoteArguments remote) >>= fun description =>
    (readRemote remote description).mapError .git

/-- All that the last three answers say of a commit. -/
def hearCommit : Except Failure Commit := do
  let hash ← c.hearHash outcome directory rev
  let (authorName, authorEmail, time) ← c.hearAuthor outcome directory rev
  let (branch, remoteUrl) ← c.hearRemote outcome directory remote
  return {
    hash := .text hash
    authorName := .text authorName
    authorEmail := .text authorEmail
    time
    branch := .text branch
    remoteUrl := .text remoteUrl
    urlTemplate := c.urlTemplate }

/-- The questions about a commit besides the one for its diff. -/
def commitQuestions : List Question := [
  .about (c.request directory (hashArguments rev)) (c.hearHash outcome directory rev),
  .about (c.request directory (authorArguments rev)) (c.hearAuthor outcome directory rev),
  .about (c.request directory (remoteArguments remote)) (c.hearRemote outcome directory remote)]

/-- The questions to git, in the order in which they are asked. -/
def questions : List Question :=
  .about (c.request directory (diffArguments rev)) (c.hearDiff outcome directory rev) ::
    c.commitQuestions outcome directory rev remote

theorem firstTrouble?_commitQuestions :
    Question.firstTrouble? (c.commitQuestions outcome directory rev remote) =
      Question.failure? (c.hearCommit outcome directory rev remote) :=
  Question.firstTrouble?_about_cons fun _ _ =>
    Question.firstTrouble?_about_cons fun _ _ => Question.firstTrouble?_about_cons fun _ _ => rfl

theorem firstTrouble?_questions :
    Question.firstTrouble? (c.questions outcome directory rev remote) =
      Question.failure? (c.hearDiff outcome directory rev >>= fun _ =>
        c.hearCommit outcome directory rev remote) :=
  Question.firstTrouble?_about_cons fun _ _ => c.firstTrouble?_commitQuestions ..

end Client

theorem explain_reports (c : Client) (arguments : List Text) :
    (c.reports arguments).Explain (explain c arguments) ("git".toList :: arguments) c.limit where
  failed stderr code := by
    rw [explain, Program.told_captured]
    rfl
  timedOut := rfl
  missing _ := rfl
  forbidden _ := rfl
  interrupted := rfl
  tooLarge := rfl

section

variable {c : Client} {s : Surroundings} {files : FileTree} {outcome : Program.Request → Outcome}
  {directory rev remote : Text}

theorem makes_ask (hs : ∀ q, s.answer q = (outcome q).answer) (arguments : List Text) :
    Makes s files (ask c directory (arguments.map .text)) [c.request directory arguments]
      ((c.hear outcome directory arguments).map .text) := by
  unfold ask
  rw [Value.texts?_map_text, ← bind_ok_eq_map]
  refine Program.makes_asking
    (o := { directory := .text directory, capture := true, limit := c.limit })
    (explain_reports c arguments) rfl rfl (hs _) fun v t hv => ?_
  change Makes s files (pure (Program.given v.1)) [] _
  rw [hv]
  exact Makes.pure _

theorem makes_askLine (hs : ∀ q, s.answer q = (outcome q).answer) (arguments : List Text) :
    Makes s files (askLine c directory (arguments.map .text)) [c.request directory arguments]
      ((c.hear outcome directory arguments).map Text.strip) := by
  have hask : Makes s files (ask c directory (arguments.map .text)) _ _ := makes_ask hs arguments
  cases hr : c.hear outcome directory arguments with
  | error f =>
    rw [hr] at hask
    exact hask.bind_error
  | ok t =>
    rw [hr] at hask
    exact hask.bind ((Makes.ofExcept Failure.misuse (.ok t)).after (Makes.pure _))

theorem makes_diff (hs : ∀ q, s.answer q = (outcome q).answer) :
    Makes s files (diff c directory (.text rev)) [c.request directory (Client.diffArguments rev)]
      ((c.hearDiff outcome directory rev).map .text) :=
  makes_ask hs (Client.diffArguments rev)

theorem makes_commitHash (hs : ∀ q, s.answer q = (outcome q).answer) :
    Makes s files (commitHash c directory (.text rev))
      [c.request directory (Client.hashArguments rev)] (c.hearHash outcome directory rev) :=
  makes_askLine hs (Client.hashArguments rev)

theorem makes_author (hs : ∀ q, s.answer q = (outcome q).answer) :
    Makes s files (author c directory (.text rev))
      [c.request directory (Client.authorArguments rev)] (c.hearAuthor outcome directory rev) :=
  (makes_askLine hs (Client.authorArguments rev)).andThen fun line _ =>
    Makes.ofExcept_id (readAuthor line)

theorem makes_remoteInfo (hs : ∀ q, s.answer q = (outcome q).answer)
    (hremote : c.remote = .text remote) :
    Makes s files (remoteInfo c directory .null)
      [c.request directory (Client.remoteArguments remote)]
      (c.hearRemote outcome directory remote) := by
  have hask : Makes s files (ask c directory ((Client.remoteArguments remote).map .text)) _ _ :=
    makes_ask hs (Client.remoteArguments remote)
  unfold remoteInfo Client.hearRemote
  simp only [Value.isSet, hremote, Bool.false_eq_true, if_false, Value.display_text]
  cases hr : c.hear outcome directory (Client.remoteArguments remote) with
  | error f =>
    rw [hr] at hask
    exact hask.bind_error
  | ok t =>
    rw [hr] at hask
    exact hask.bind ((Makes.ofExcept Failure.misuse (.ok t)).after (Makes.ofExcept Failure.git _))

/-- The questions about a commit are asked in turn, and together they tell the commit. -/
theorem makes_commit (hs : ∀ q, s.answer q = (outcome q).answer)
    (hremote : c.remote = .text remote) :
    Makes s files (commit c directory (.text rev))
      ((Question.inTurn (c.commitQuestions outcome directory rev remote)).map Question.request)
      (c.hearCommit outcome directory rev remote) := by
  refine (makes_commitHash hs).next fun hash _ => ?_
  refine (makes_author hs).next fun (authorName, authorEmail, time) _ => ?_
  refine (makes_remoteInfo hs hremote).next fun (branch, remoteUrl) _ => ?_
  exact (Makes.log .debug _).after (Makes.pure _)

end

end ChangeFeed.Git
