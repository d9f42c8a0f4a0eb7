import ChangeFeed.Commit.Basic
import ChangeFeed.Diff.Hunk
import ChangeFeed.Event.Basic
import ChangeFeed.Reference.Basic
import ChangeFeed.Symbol.Tag

/-!
What is reported of each thing, entry by entry and in order.
-/

namespace ChangeFeed

/-- The entries of a line. -/
def Line.entries (l : Line) : Table := [("num", .int l.num), ("text", .text l.text)]

/-- The entries of a hunk. -/
def Hunk.entries (h : Hunk) : Table := [
  ("filename", h.filename),
  ("old_start", .int h.oldStart),
  ("old_end", .int h.oldEnd),
  ("old_lines", .list (h.oldLines.map fun l => .table l.entries)),
  ("new_start", .int h.newStart),
  ("new_end", .int h.newEnd),
  ("new_lines", .list (h.newLines.map fun l => .table l.entries))]

/-- The entries of a tag. -/
def Tag.entries (t : Tag) : Table := [
  ("file", t.file), ("name", t.name), ("kind", t.kind), ("signature", t.signature),
  ("line", .int t.line)]

/-- The entries of a reference. -/
def Reference.entries (r : Reference) : Table := [
  ("name", r.name), ("kind", .text r.kind.name), ("file", r.file), ("line", .int r.line),
  ("text", r.text)]

/-- The entries of an event. -/
def Event.entries (e : Event) : Table := [
  ("id", e.id), ("title", e.title), ("body", e.body), ("url", e.url),
  ("type", .text e.type.name), ("time", .text e.time.toText)]

/-- The entries of a subscription. -/
def Subscription.entries (s : Subscription) : Table := [
  ("src", s.source), ("dsts", .list s.targets)]

/-- The entries of a batch. -/
def Batch.entries (b : Batch) : Table := [
  ("events", .list (b.events.map fun e => .table e.entries)),
  ("subscriptions", .list (b.subscriptions.map fun s => .table s.entries))]

/-- The entries of a commit, if it has a remote and a URL. -/
def Commit.entries (c : Commit) : Except Failure Table := do
  let remote ← c.remote.mapError Failure.misuse
  let url ← c.url
  return [
    ("commit", c.hash), ("author_name", c.authorName), ("author_email", c.authorEmail),
    ("timestamp", .text c.time.toText), ("branch", c.branch), ("remote", .text remote),
    ("url", .text url)]

/-- The entries of a value: a table has its own, anything else is displayed in one. -/
def Value.entries : Value → Table
  | .table es => es
  | v => [("value", .text v.display)]

end ChangeFeed
