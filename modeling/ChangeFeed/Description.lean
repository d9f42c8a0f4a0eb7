import ChangeFeed.Commit.Basic
import ChangeFeed.Event.Basic
import ChangeFeed.Symbol.Loose
import ChangeFeed.Value.Signature

/-!
Things described by values.

A table describes a thing by the values of its parts. It has to name every part that has no default,
and no part that the thing does not have.
-/

namespace ChangeFeed.Description

/-- What is needed to make a tag. -/
def tagParts : Signature where
  operation := "Tag.__init__"
  required := ["file", "name"]
  optional := ["kind", "signature", "line"]

/-- What is needed to make a line. -/
def lineParts : Signature where
  operation := "Line.__init__"
  required := ["num", "text"]
  receivers := 1

/-- What is needed to make a hunk. -/
def hunkParts : Signature where
  operation := "Hunk.__init__"
  required := ["filename", "old_start", "old_end", "new_start", "new_end"]
  optional := ["old_lines", "new_lines"]

/-- What is needed to make a reference. -/
def referenceParts : Signature where
  operation := "Reference.__init__"
  required := ["name", "kind", "file", "line"]
  optional := ["text"]

/-- What is needed to make a commit. -/
def commitParts : Signature where
  operation := "CommitMetadata.__init__"
  required := ["commit", "author_name", "author_email", "timestamp", "branch", "remote_url"]
  optional := ["commit_url_template"]

/-- What is needed to make an event. -/
def eventParts : Signature where
  operation := "ChangeEvent.__init__"
  required := ["id", "title", "body", "url", "type", "time"]

/-- The entries of a value that is copied before it is used, which has to be a table. -/
def copied (v : Value) : Except Misuse Table :=
  match v with
  | .table es => .ok es
  | .list [] | .text [] => .ok []
  | v => .error (.notIterable v.kindName)

/-- The entries of a value that names the parts of a `thing`. -/
def entriesOf (thing : Text) (v : Value) : Except Misuse Table :=
  match v with
  | .table es => .ok es
  | v =>
    .error (.arguments
      (thing ++ "() argument after ** must be a mapping, not " ++ v.kindName))

/-- The value of an entry that has to be there. -/
def required (key : Text) (t : Table) : Except Misuse Value :=
  match t.get? (.text key) with
  | some v => .ok v
  | none => .error (.noEntry (.text key))

/-- The value of a part, once it is known that all parts are there. -/
def part (key : Text) (t : Table) (default : Value := .null) : Value :=
  (t.get? (.text key)).getD default

/-- Looks at the names of the parts that are given. -/
def checkParts (s : Signature) (t : Table) : Except Misuse Unit :=
  s.checkNames (Key.texts t.keys)

/-- The tag that a value describes. -/
def tag (v : Value) : Except Misuse LooseTag := do
  let t ← entriesOf "defevents.domain.symbol.Tag" v
  checkParts tagParts t
  return {
    tag := {
      file := part "file" t
      name := part "name" t
      kind := part "kind" t (.text [])
      signature := part "signature" t (.text []) }
    line := part "line" t (.int 0) }

/-- The line that a pair of number and text describes. -/
def linePair (v : Value) : Except Misuse (Value × Value) := do
  match v with
  | .list [num, text] => return (num, text)
  | v =>
    let parts ← v.elements
    lineParts.checkCount parts.length
    return (parts.headD .null, (parts.drop 1).headD .null)

/-- The line that a table describes. -/
def line (v : Value) : Except Misuse (Value × Value) := do
  let t ← entriesOf "defevents.domain.diff.Line" v
  checkParts lineParts t
  return (part "num" t, part "text" t)

/-- The hunk that a value describes. -/
def hunk (v : Value) : Except Misuse LooseHunk := do
  let t ← copied v
  let lines (key : Text) : Except Misuse (List (Value × Value)) :=
    match t.get? (.text key) with
    | some ls => ls.elements >>= fun ls => ls.mapM linePair
    | none => .ok []
  let newLines ← lines "new_lines"
  let oldLines ← lines "old_lines"
  checkParts hunkParts t
  return {
    filename := part "filename" t
    oldStart := part "old_start" t
    oldEnd := part "old_end" t
    newStart := part "new_start" t
    newEnd := part "new_end" t
    oldLines
    newLines }

/-- A reference with a value for its line. -/
structure LooseReference where
  reference : Reference
  line : Value
  deriving DecidableEq, Repr

/-- The entries of a reference. -/
def LooseReference.entries (r : LooseReference) : Table :=
  Table.set "line" r.line r.reference.entries

/-- The reference that a value describes. -/
def reference (v : Value) : Except Failure LooseReference := do
  let t ← (copied v).mapError .misuse
  let kind ← ReferenceKind.ofValue (← (required "kind" t).mapError .misuse)
  (checkParts referenceParts t).mapError .misuse
  return {
    reference := {
      name := part "name" t
      kind
      file := part "file" t
      line := 0
      text := part "text" t (.text []) }
    line := part "line" t }

/-- The instant that a value stands for, as a number of seconds. -/
def instant (v : Value) : Except Failure Instant :=
  match v with
  | .real x => (Instant.ofReal x).mapError .instant
  | v => do
    let n ← v.integer.mapError Failure.misuse
    (Instant.ofSeconds n).mapError .instant

/-- The commit that a value describes. -/
def commit (v : Value) : Except Failure Commit := do
  let t ← (copied v).mapError Failure.misuse
  let time ← instant (← (required "timestamp" t).mapError .misuse)
  (checkParts commitParts t).mapError .misuse
  return {
    hash := part "commit" t
    authorName := part "author_name" t
    authorEmail := part "author_email" t
    time
    branch := part "branch" t
    remoteUrl := part "remote_url" t
    urlTemplate := part "commit_url_template" t (.text Commit.defaultUrlTemplate) }

/-- The event that a value describes. -/
def event (v : Value) : Except Failure Event := do
  let t ← (copied v).mapError Failure.misuse
  let type ← EventType.ofValue (← (required "type" t).mapError .misuse)
  let time ← instant (← (required "time" t).mapError .misuse)
  (checkParts eventParts t).mapError .misuse
  return {
    id := part "id" t
    title := part "title" t
    body := part "body" t
    url := part "url" t
    type
    time }

/-- The subscription that a pair of source and targets describes. -/
def subscriptionPair (v : Value) : Except Misuse Subscription := do
  let (source, targets) ← v.unpackPair
  return ⟨source, ← targets.elements⟩

/-- The subscription that a table describes. -/
def subscription (v : Value) : Except Misuse Subscription := do
  let t ← copied v
  let source ← required "src" t
  let targets ← required "dsts" t
  return ⟨source, ← targets.elements⟩

end ChangeFeed.Description
