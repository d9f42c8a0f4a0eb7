import ChangeFeed.Json.Problem
import ChangeFeed.Value.Literal

/-!
Why the tags of files are not known.
-/

namespace ChangeFeed.Ctags

/-- What went wrong with the tag program or its output. -/
inductive Problem where
  /-- The program ended with an error. -/
  | failed (program detail : Text)
  | timedOut (program : Text) (limit : Value)
  /-- There is no such program to run. -/
  | notRun (program reason : Text)
  /-- A line of the output is no JSON. -/
  | notJson (line : Text) (p : Json.Problem)
  /-- A record lacks a field that a tag needs. -/
  | incomplete (line : Text)
  /-- The configured output format is none that is known. -/
  | format (v : Value)
  deriving DecidableEq, Repr

namespace Problem

/-- The kind of error, as reports name it. -/
def kind : Problem → Text
  | notJson _ _ | incomplete _ => "TagFormatError"
  | format _ => "ConfigError"
  | _ => "TagExtractionError"

/-- The text of the error. -/
def message : Problem → Text
  | failed program detail => program ++ " failed: " ++ detail
  | timedOut program limit => program ++ " timed out after " ++ limit.display ++ "s"
  | notRun program reason => "Could not run " ++ program ++ ": " ++ reason
  | notJson line p => "Invalid ctags JSON line " ++ Text.quoted line ++ ": " ++ p.message
  | incomplete line => "Incomplete ctags record " ++ Text.quoted line
  | format v =>
    "Unknown ctags output format " ++ v.literal ++ ", expected one of ('json', 'etags')"

end Problem

end ChangeFeed.Ctags
