import ChangeFeed.Ctags.Client
import ChangeFeed.Diff.Reader
import ChangeFeed.Event.Assembly
import ChangeFeed.Git.Client
import ChangeFeed.Reference.Scanner
import ChangeFeed.Symbol.Loose

/-!
From a commit to its batch of events.

Git and the tag program are asked for everything first; if one of them fails, nothing is built. What
is built then depends on the diff, the tags and the commit alone.
-/

namespace ChangeFeed

/-- All that the configuration decides about the analysis of a commit. -/
structure Analyzer where
  git : Git.Client
  ctags : Ctags.Client
  scanner : Scanner
  /-- Whether references give events. -/
  references : Bool
  deriving DecidableEq, Repr

/-- What a diff and the tags of its files come to. -/
structure Findings where
  hunks : List Hunk
  tagCount : Nat
  changed : List Tag
  references : List Reference
  deriving DecidableEq, Repr

/-- The batch of a commit in which this was found. -/
def Findings.batch (found : Findings) (c : Commit) : Except Failure Batch :=
  Batch.assemble c found.changed found.references

namespace Analyzer

/-- The analyzer that a configuration describes. -/
def ofConfig (config : Value) : Except Failure Analyzer := do
  let git ← (Git.Client.ofConfig config).mapError Failure.misuse
  let ctags ← Ctags.Client.ofConfig config
  let scanner ← Scanner.ofConfig config
  let settings ← (config.getD "references" (.table [])).mapError Failure.misuse
  let enabled ← (settings.getD "enabled" (.bool true)).mapError Failure.misuse
  return { git, ctags, scanner, references := enabled.isSet }

/-- The hunks of a diff, the tags that they change, and the references in their added lines. -/
def examine (a : Analyzer) (diff : Text) (tags : List Tag) : Except Failure Findings := do
  let hunks ← Diff.parse diff
  let index ← (SymbolIndex.ofTags tags).mapError Failure.misuse
  return {
    hunks
    tagCount := index.tags.length
    changed := index.changed hunks
    references := if a.references then a.scanner.scan hunks else [] }

/-- The batch of a commit with the given diff and tags. -/
def build (a : Analyzer) (diff : Text) (tags : List Tag) (c : Commit) : Except Failure Batch := do
  let found ← a.examine diff tags
  found.batch c

/-- The batch of a commit with the given diff, and tags whose lines may be any values. -/
def buildLoose (a : Analyzer) (diff : Text) (tags : List LooseTag) (c : Commit) :
    Except Failure Batch :=
  match tags.mapM LooseTag.strict? with
  | some tags => a.build diff tags c
  | none => do
    let hunks ← Diff.parse diff
    let changed ← (changedTags tags (hunks.map .ofHunk)).mapError Failure.misuse
    Batch.assemble c (changed.map LooseTag.tag)
      (if a.references then a.scanner.scan hunks else [])

/-- What the log says about findings. -/
def report (a : Analyzer) (found : Findings) : Run Unit := do
  Run.log .debug
    (Text.ofNat found.changed.length ++ " of " ++ Text.ofNat found.tagCount ++
      " tags overlap the diff")
  if a.references then
    Run.log .debug ("Found " ++ Text.ofNat found.references.length ++ " candidate references")
  Run.log .debug
    (Text.ofNat found.hunks.length ++ " hunks, " ++ Text.ofNat found.changed.length ++
      " changed tags, " ++ Text.ofNat found.references.length ++ " references")

/-- The batch of a commit, with a report of what was found in the log. -/
def buildReported (a : Analyzer) (diff : Text) (tags : List Tag) (c : Commit) : Run Batch := do
  let found ← Run.ofExcept id (a.examine diff tags)
  a.report found
  Run.ofExcept id (found.batch c)

/-- The text that a diff has to be to be read. -/
def diffText (diff : Value) : Run Text := Run.ofExcept .misuse (diff.textFor "split")

/-- The hunks of a commit. -/
def hunks (a : Analyzer) (directory : Text) (rev : Value) : Run (List Hunk) := do
  let diff ← diffText (← Git.diff a.git directory rev)
  Run.ofExcept id (Diff.parse diff)

/-- The tags of the files that a commit changes, file by file. -/
def tags (a : Analyzer) (directory : Text) (rev : Value) : Run (List Tag) := do
  let hs ← a.hunks directory rev
  let ts ← Ctags.extract a.ctags (.ofText directory) (Hunk.files hs)
  let index ← Run.ofExcept .misuse (SymbolIndex.ofTags ts)
  return index.regrouped

/-- The batch of a commit, from what git and the tag program say about it. -/
def collect (a : Analyzer) (directory : Text) (rev : Value) : Run Batch := do
  let diff ← Git.diff a.git directory rev
  let c ← Git.commit a.git directory rev
  let diff ← diffText diff
  let hs ← Run.ofExcept id (Diff.parse diff)
  let files := Hunk.files hs
  let ts ← Ctags.extract a.ctags (.ofText directory) files
  Run.log .info
    ("Analyzing " ++ c.hash.display.take 8 ++ ": " ++ Text.ofNat files.length ++ " files, " ++
      Text.ofNat ts.length ++ " tags")
  a.buildReported diff ts c

end Analyzer

end ChangeFeed
