import ChangeFeed.Commit.Remote
import ChangeFeed.Failure
import ChangeFeed.Template.Basic

/-!
Commits: who made a change, when, and where it can be viewed.

All of a commit but its time is a text wherever git has told it; data from elsewhere may have any
value in its place.
-/

namespace ChangeFeed

/-- What is known of a commit besides its diff. The template of its URL comes from the
configuration, where it may be any value. -/
structure Commit where
  hash : Value
  authorName : Value
  authorEmail : Value
  time : Instant
  branch : Value
  remoteUrl : Value
  urlTemplate : Value
  deriving DecidableEq, Repr

namespace Commit

/-- The template of commit URLs where none is configured. -/
def defaultUrlTemplate : Text := "https://\x7bremote\x7d/commit/\x7bcommit\x7d"

/-- The first word of a name, or the whole name if it has no word. -/
def firstName (name : Text) : Text := (Text.words name).head?.getD name

/-- The first name of the author, whose name has to be a text. -/
def authorFirstName (c : Commit) : Except Misuse Text :=
  (c.authorName.textFor "split").map firstName

/-- The remote as it is shown; its URL has to be a text. -/
def remote (c : Commit) : Except Misuse Text := (c.remoteUrl.textFor "strip").map Remote.display

/-- What a template of commit URLs can name. -/
def urlFields (c : Commit) (remote : Text) : Template.Fields :=
  [("remote", .text remote), ("commit", c.hash), ("branch", c.branch)]

/-- The URL of the commit. -/
def url (c : Commit) : Except Failure Text := do
  let template ← (c.urlTemplate.textFor "format").mapError .misuse
  let remote ← c.remote.mapError .misuse
  (Template.render (c.urlFields remote) template).mapError .template

end Commit

end ChangeFeed
