import ChangeFeed.Calendar.Instant
import ChangeFeed.Ctags.Problem
import ChangeFeed.Etags.Problem
import ChangeFeed.Files.Tree
import ChangeFeed.Git.Problem
import ChangeFeed.Logging.Level
import ChangeFeed.Program.Problem
import ChangeFeed.Report.Markup
import ChangeFeed.Template.Problem
import ChangeFeed.Text.Numeral
import ChangeFeed.Toml.Reader
import ChangeFeed.Value.Misuse
import ChangeFeed.Yaml.Problem

/-!
Why an operation stopped.

Each part of the library has problems of its own; a failure is one of them. Its kind decides the
exit code of a command.
-/

namespace ChangeFeed

/-- Why an operation stopped. -/
inductive Failure where
  | git (p : Git.Problem)
  | ctags (p : Ctags.Problem)
  | etags (p : Etags.Problem)
  /-- A setting has to be a list of texts. -/
  | tokens (setting : Text) (v : Value)
  | program (p : Program.Problem)
  | misuse (p : Misuse)
  | numeral (p : Numeral.Problem)
  | template (p : Template.Problem)
  | instant (p : Instant.Problem)
  | logging (p : Logging.Problem)
  | markup (p : Markup.Problem)
  | json (p : Json.Problem)
  /-- A text of JSON opens too many containers inside each other. -/
  | tooDeep (c : Json.Container)
  /-- A value cannot be written as JSON. -/
  | unwritable (o : Json.Obstacle)
  | toml (p : Toml.SyntaxProblem)
  | yaml (p : Yaml.SyntaxProblem)
  | file (p : FileProblem)
  /-- A text cannot be encoded to be written or printed. -/
  | unencodable (p : CodePoints.Unencodable)
  /-- A value names none of the members of a type. -/
  | unknownMember (type : Text) (v : Value)
  deriving DecidableEq, Repr

namespace Failure

/-- The kind of failure, as reports name it. -/
def kind : Failure → Text
  | git p => p.kind
  | ctags p => p.kind
  | etags _ => "TagFormatError"
  | tokens _ _ => "ConfigError"
  | program p => p.kind
  | misuse p => p.kind
  | numeral p => p.kind
  | template p => p.kind
  | instant p => p.kind
  | logging p => p.kind
  | markup p => p.kind
  | json _ => "JSONDecodeError"
  | tooDeep _ => "RecursionError"
  | unwritable o => o.kind
  | toml _ => "TOMLDecodeError"
  | yaml _ => "YAMLError"
  | file p => p.kind
  | unencodable _ => "UnicodeEncodeError"
  | unknownMember _ _ => "ValueError"

/-- The text of the failure. -/
def message : Failure → Text
  | git p => p.message
  | ctags p => p.message
  | etags p => p.message
  | tokens setting v => setting ++ " must be a list of strings, got " ++ v.literal
  | program p => p.message
  | misuse p => p.message
  | numeral p => p.message
  | template p => p.message
  | instant p => p.message
  | logging p => p.message
  | markup p => p.message
  | json p => p.message
  | tooDeep c => c.tooDeep
  | unwritable o => o.message
  | toml p => p.message
  | yaml p => p.message
  | file p => p.message
  | unencodable p => p.message
  | unknownMember type v => v.literal ++ " is not a valid " ++ type

/-- A failure that tells about a value; a value that cannot be shown is a failure of its own. -/
def about (v : Value) (f : Failure) : Failure := if v.fits then f else .numeral .tooLarge

end Failure

end ChangeFeed
