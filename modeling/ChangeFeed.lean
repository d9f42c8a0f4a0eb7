import ChangeFeed.Analyzer
import ChangeFeed.Attempt
import ChangeFeed.Calendar.Instant
import ChangeFeed.Calendar.Moment
import ChangeFeed.CommandLine.Arguments
import ChangeFeed.CommandLine.Command
import ChangeFeed.CommandLine.Execution
import ChangeFeed.Commit.Basic
import ChangeFeed.Commit.Remote
import ChangeFeed.Config.LogSetup
import ChangeFeed.Config.Merge
import ChangeFeed.Config.Overrides
import ChangeFeed.Config.Storage
import ChangeFeed.Ctags.Client
import ChangeFeed.Ctags.Listing
import ChangeFeed.Ctags.Problem
import ChangeFeed.Ctags.Records
import ChangeFeed.Decimal.Binary64
import ChangeFeed.Decimal.Rounded
import ChangeFeed.Decimal.Shortest
import ChangeFeed.Description
import ChangeFeed.Diff.Document
import ChangeFeed.Diff.Header
import ChangeFeed.Diff.Hunk
import ChangeFeed.Diff.Reader
import ChangeFeed.Etags.Document
import ChangeFeed.Etags.Entry
import ChangeFeed.Etags.Problem
import ChangeFeed.Etags.Session
import ChangeFeed.Event.Assembly
import ChangeFeed.Event.Basic
import ChangeFeed.ExitCode
import ChangeFeed.Expression.Basic
import ChangeFeed.Expression.Escape
import ChangeFeed.Expression.Fault
import ChangeFeed.Expression.Field
import ChangeFeed.Expression.Grammar
import ChangeFeed.Expression.Matching
import ChangeFeed.Expression.Meaning
import ChangeFeed.Expression.Number
import ChangeFeed.Expression.Pattern
import ChangeFeed.Expression.Quotation
import ChangeFeed.Expression.Reader
import ChangeFeed.Expression.Rules.Argument
import ChangeFeed.Expression.Rules.Basic
import ChangeFeed.Expression.Rules.Display
import ChangeFeed.Expression.Rules.Operation
import ChangeFeed.Expression.Rules.Parameter
import ChangeFeed.Expression.Scan
import ChangeFeed.Expression.Token
import ChangeFeed.Failure
import ChangeFeed.Files.Path
import ChangeFeed.Files.Tree
import ChangeFeed.Git.Client
import ChangeFeed.Git.Problem
import ChangeFeed.Grouping
import ChangeFeed.Json.Problem
import ChangeFeed.Json.Reader
import ChangeFeed.Json.Str
import ChangeFeed.Json.Writer
import ChangeFeed.Libraries
import ChangeFeed.Logging.Format
import ChangeFeed.Logging.Level
import ChangeFeed.Main
import ChangeFeed.Operation
import ChangeFeed.Program.Command
import ChangeFeed.Program.Problem
import ChangeFeed.Program.Request
import ChangeFeed.Proofs.Analyzer.Alignment
import ChangeFeed.Proofs.Analyzer.Append
import ChangeFeed.Proofs.Analyzer.Build
import ChangeFeed.Proofs.Analyzer.FailFast
import ChangeFeed.Proofs.Analyzer.Formats
import ChangeFeed.Proofs.Analyzer.Regrouping
import ChangeFeed.Proofs.Analyzer.Settings
import ChangeFeed.Proofs.Analyzer.TagOrder
import ChangeFeed.Proofs.CommandLine.Events
import ChangeFeed.Proofs.CommandLine.Quiet
import ChangeFeed.Proofs.Commit.Remote
import ChangeFeed.Proofs.Commit.UserInfo
import ChangeFeed.Proofs.Config.IgnoreList
import ChangeFeed.Proofs.Config.Layers
import ChangeFeed.Proofs.Config.Merge
import ChangeFeed.Proofs.Config.Overrides
import ChangeFeed.Proofs.Config.Sections
import ChangeFeed.Proofs.Config.Storage
import ChangeFeed.Proofs.Config.Unreadable
import ChangeFeed.Proofs.Ctags.Asides
import ChangeFeed.Proofs.Ctags.Asking
import ChangeFeed.Proofs.Ctags.Listing
import ChangeFeed.Proofs.Ctags.Refusal
import ChangeFeed.Proofs.Diff.Append
import ChangeFeed.Proofs.Diff.Files
import ChangeFeed.Proofs.Diff.Header
import ChangeFeed.Proofs.Diff.Invariant
import ChangeFeed.Proofs.Diff.Reading
import ChangeFeed.Proofs.Diff.Refusal
import ChangeFeed.Proofs.Diff.RoundTrip
import ChangeFeed.Proofs.Diff.Session
import ChangeFeed.Proofs.Diff.WellFormed
import ChangeFeed.Proofs.Etags.Grammar
import ChangeFeed.Proofs.Etags.Parts
import ChangeFeed.Proofs.Etags.Reading
import ChangeFeed.Proofs.Etags.Remarks
import ChangeFeed.Proofs.Etags.RoundTrip
import ChangeFeed.Proofs.Event.Identity
import ChangeFeed.Proofs.Files.Tree
import ChangeFeed.Proofs.Git.Author
import ChangeFeed.Proofs.Git.Questions
import ChangeFeed.Proofs.Grouping
import ChangeFeed.Proofs.Json.Characters
import ChangeFeed.Proofs.Json.Completeness
import ChangeFeed.Proofs.Json.Depth
import ChangeFeed.Proofs.Json.Grammar
import ChangeFeed.Proofs.Json.Lines
import ChangeFeed.Proofs.Json.Number
import ChangeFeed.Proofs.Json.Refusal
import ChangeFeed.Proofs.Json.RoundTrip
import ChangeFeed.Proofs.Json.String
import ChangeFeed.Proofs.KeptOrder
import ChangeFeed.Proofs.LineEnds
import ChangeFeed.Proofs.Outcome
import ChangeFeed.Proofs.Program.Outcome
import ChangeFeed.Proofs.Program.Question
import ChangeFeed.Proofs.Reference.Added
import ChangeFeed.Proofs.Reference.Candidates
import ChangeFeed.Proofs.Reference.Patterns
import ChangeFeed.Proofs.Reference.Settings
import ChangeFeed.Proofs.Reference.Words
import ChangeFeed.Proofs.Report.Batch
import ChangeFeed.Proofs.Report.Lines
import ChangeFeed.Proofs.Run
import ChangeFeed.Proofs.Symbol.Changed
import ChangeFeed.Proofs.Symbol.Coverage
import ChangeFeed.Proofs.Symbol.Narrowing
import ChangeFeed.Proofs.Symbol.Spans
import ChangeFeed.Proofs.Symbol.Tiling
import ChangeFeed.Proofs.Text.DigitText
import ChangeFeed.Proofs.Text.FirstPart
import ChangeFeed.Proofs.Text.Lines
import ChangeFeed.Proofs.Text.Numeral
import ChangeFeed.Proofs.Text.Scan
import ChangeFeed.Proofs.Value.Distinct
import ChangeFeed.Raised.Arguments
import ChangeFeed.Raised.Basic
import ChangeFeed.Raised.Family
import ChangeFeed.Reference.Basic
import ChangeFeed.Reference.Scanner
import ChangeFeed.Report.Cell
import ChangeFeed.Report.Entries
import ChangeFeed.Report.Grid
import ChangeFeed.Report.Markup
import ChangeFeed.Report.Output
import ChangeFeed.Report.Style
import ChangeFeed.Run
import ChangeFeed.Symbol.Correlation
import ChangeFeed.Symbol.Index
import ChangeFeed.Symbol.Loose
import ChangeFeed.Symbol.Tag
import ChangeFeed.Template.Basic
import ChangeFeed.Template.Layout
import ChangeFeed.Template.Number
import ChangeFeed.Template.Problem
import ChangeFeed.Text.Basic
import ChangeFeed.Text.Blank
import ChangeFeed.Text.CharacterName
import ChangeFeed.Text.CharacterName.Letter
import ChangeFeed.Text.CharacterName.Symbol
import ChangeFeed.Text.CodePoint
import ChangeFeed.Text.CodeRange
import ChangeFeed.Text.Digit
import ChangeFeed.Text.Identifier
import ChangeFeed.Text.LetterCase
import ChangeFeed.Text.Lines
import ChangeFeed.Text.Numeral
import ChangeFeed.Text.Printable
import ChangeFeed.Text.Quoted
import ChangeFeed.Text.Word
import ChangeFeed.Toml.Reader
import ChangeFeed.Toml.Scalar
import ChangeFeed.Toml.Scan
import ChangeFeed.Toml.Writer
import ChangeFeed.Value.Basic
import ChangeFeed.Value.Key
import ChangeFeed.Value.Literal
import ChangeFeed.Value.Misuse
import ChangeFeed.Value.Order
import ChangeFeed.Value.Quantity
import ChangeFeed.Value.Signature
import ChangeFeed.Yaml.Cursor
import ChangeFeed.Yaml.Mark
import ChangeFeed.Yaml.Node
import ChangeFeed.Yaml.Problem
import ChangeFeed.Yaml.Quoting
import ChangeFeed.Yaml.Reader
import ChangeFeed.Yaml.Scalar
import ChangeFeed.Yaml.Scan
import ChangeFeed.Yaml.Token
import ChangeFeed.Yaml.Writer
