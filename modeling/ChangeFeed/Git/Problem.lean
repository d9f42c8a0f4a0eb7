import ChangeFeed.Value.Literal

/-!
Why git did not tell what was asked of it.
-/

namespace ChangeFeed.Git

/-- What went wrong with a question to git. -/
inductive Problem where
  /-- The command ended with an error. -/
  | failed (arguments : List Text) (detail : Text)
  | timedOut (arguments : List Text) (limit : Value)
  /-- There is no git to run. -/
  | notRun (reason : Text)
  | noHeadBranch (remote : Text)
  | noFetchUrl (remote : Text)
  /-- The author line has not three fields. -/
  | authorLine (line : Text)
  /-- The time of the commit is no number of seconds that has a date. -/
  | time (t : Text)
  deriving DecidableEq, Repr

namespace Problem

/-- The kind of error, as reports name it. -/
def kind : Problem → Text
  | authorLine _ | time _ => "MetadataError"
  | _ => "VCSError"

/-- The arguments of git as messages show them. -/
def shown (arguments : List Text) : Text := "git " ++ Text.join " " arguments

/-- The text of the error. -/
def message : Problem → Text
  | failed arguments detail => shown arguments ++ " failed: " ++ detail
  | timedOut arguments limit => shown arguments ++ " timed out after " ++ limit.display ++ "s"
  | notRun reason => "Could not run git: " ++ reason
  | noHeadBranch remote => "No HEAD branch found for remote " ++ Text.quoted remote
  | noFetchUrl remote => "No fetch URL found for remote " ++ Text.quoted remote
  | authorLine line => "Unexpected author line: " ++ Text.quoted line
  | time t => "Invalid commit timestamp " ++ Text.quoted t

end Problem

end ChangeFeed.Git
