import ChangeFeed.Commit.Basic
import ChangeFeed.Value.Misuse

/-!
The configuration that holds where nothing else is said, and laying one configuration over another.

Where both hold a table the tables are merged; anywhere else the upper value replaces the lower one.
Keys of the lower configuration keep their places, and new keys come last.
-/

namespace ChangeFeed.Config

/-- The default configuration, section by section. -/
def defaults : Table := [
  ("git", .table [("remote", .text "origin"), ("timeout_seconds", .int 30)]),
  ("ctags", .table [
    ("command", .text "ctags"), ("format", .text "json"), ("timeout_seconds", .int 60)]),
  ("references", .table [
    ("enabled", .bool true), ("markup", .bool true), ("ignore_extra", .list [])]),
  ("events", .table [("commit_url_template", .text Commit.defaultUrlTemplate)]),
  ("logging", .table [("level", .text "INFO"), ("format", .text "%(levelname)s: %(message)s")])]

mutual

/-- A value laid over what is below it. -/
def mergeValue : Option Value → Value → Value
  | some (.table lower), .table upper => .table (mergeEntries lower upper)
  | _, v => v

/-- Entries laid over a table. -/
def mergeEntries (lower : Table) : List (Key × Value) → Table
  | [] => lower
  | (k, v) :: upper => mergeEntries (Table.set k (mergeValue (Table.get? k lower) v) lower) upper

end

/-- Whether a copy of a value can be made to lay something over it. -/
def isLayer : Value → Bool
  | .table _ | .list _ => true
  | _ => false

/-- One configuration laid over another. Both should be tables; of a list below it shows only when
something is to be put into it. -/
def merge (lower upper : Value) : Except Misuse Value :=
  if isLayer lower then
    match upper.entriesFor "items" with
    | .error e => .error e
    | .ok entries =>
      match lower with
      | .table base => .ok (.table (mergeEntries base entries))
      | v =>
        match entries with
        | [] => .ok v
        | (key, _) :: _ => .error (.notPosition key.toValue.kindName)
  else .error (.noMember lower.kindName "copy")

end ChangeFeed.Config
