import ChangeFeed.Commit.Basic
import ChangeFeed.Event.Basic
import ChangeFeed.Reference.Basic
import ChangeFeed.Symbol.Tag

/-!
Events of a commit from its changed tags and its references.

Each tag and each reference gives one event and two subscriptions, in order, tags first. What an
event says depends on nothing but its subject and the commit, so a second run gives the same events.
What the events say about the commit is told anew for each of them, so a commit that cannot tell it
is a failure only if there is an event.
-/

namespace ChangeFeed

/-- What events say about their commit. -/
structure Occasion where
  /-- The full name of the author. -/
  author : Text
  branch : Text
  remote : Text
  url : Text
  time : Instant
  deriving DecidableEq, Repr

/-- What the events of a commit say about it. -/
def Commit.occasion (c : Commit) : Except Failure Occasion := do
  let url ← c.url
  let remote ← c.remote.mapError Failure.misuse
  return {
    author := c.authorName.display
    branch := c.branch.display
    remote
    url
    time := c.time }

namespace Event

/-- The id of an event: kind, subject, file and commit URL with colons between them. -/
def idOf (kind subject file url : CodePoints) : CodePoints :=
  kind ++ ":" ++ subject ++ ":" ++ file ++ ":" ++ url

/-- Where a change was made. -/
def place (o : Occasion) (file : CodePoints) : CodePoints :=
  "in " ++ file ++ (" on branch " ++ o.branch ++ " of " ++ o.remote : Text)

/-- The event of a changed tag. -/
def ofTag (o : Occasion) (t : Tag) : Event :=
  let title : CodePoints := (o.author ++ " modified " : Text) ++ t.points
  { id := .ofPoints (idOf EventType.modified.name t.name.points t.file.points o.url)
    title := .ofPoints title
    body := .ofPoints (title ++ " " ++ place o t.file.points)
    url := .text o.url
    type := .modified
    time := o.time }

/-- The kind of a reference in the id of its event. -/
def referenceKind : ReferenceKind → Text
  | .call => EventType.referenced.name
  | .markup => EventType.referenced.name ++ "(markup)"

/-- A reference as it is shown: markup in angle brackets. -/
def usage (r : Reference) : CodePoints :=
  match r.kind with
  | .call => r.name.points
  | .markup => "<" ++ r.name.points ++ ">"

/-- The event of a reference. -/
def ofReference (o : Occasion) (r : Reference) : Event :=
  let place := place o r.file.points
  { id := .ofPoints (idOf (referenceKind r.kind) r.name.points r.file.points o.url)
    title := .ofPoints ((o.author ++ " referenced " : Text) ++ usage r)
    body := .ofPoints ((o.author ++ " started using " : Text) ++ usage r ++ " " ++ place)
    url := .text o.url
    type := .referenced
    time := o.time }

/-- The event of a tag that a commit changes. -/
def modified (c : Commit) (t : Tag) : Except Failure Event := c.occasion.map (ofTag · t)

/-- The event of a reference that a commit adds. -/
def referenced (c : Commit) (r : Reference) : Except Failure Event :=
  c.occasion.map (ofReference · r)

end Event

/-- The subscriptions of the author of a commit to a subject, by first name and by full name. -/
def Subscription.ofCommit (c : Commit) (subject : Value) : Except Failure (List Subscription) := do
  let first ← c.authorFirstName.mapError Failure.misuse
  return [⟨.text first, [subject]⟩, ⟨c.authorName, [subject]⟩]

namespace Batch

/-- The batch with the event of one more subject, and with the subscriptions to it. -/
def tell (c : Commit) (event : Except Failure Event) (subject : Value) (b : Batch) :
    Except Failure Batch := do
  let e ← event
  let b := { b with events := b.events ++ [e] }
  let subscriptions ← Subscription.ofCommit c subject
  return { b with subscriptions := b.subscriptions ++ subscriptions }

/-- The batch of tags and references. -/
def assemble (c : Commit) (tags : List Tag) (refs : List Reference) : Except Failure Batch := do
  let b ← tags.foldlM (fun b t => tell c (Event.modified c t) t.name b) {}
  refs.foldlM (fun b r => tell c (Event.referenced c r) r.name b) b

end Batch

end ChangeFeed
