import ChangeFeed.Json.Reader
import ChangeFeed.Symbol.Tag
import ChangeFeed.Text.Lines

/-!
Tags from records in JSON, one in a line.

A record of another type than `tag` is passed over, and so is a blank line. Nothing is remembered
from line to line. Fields that a tag takes over may hold any value; the line has to be a whole
number, or a text or a number that can be cut down to one. In each line, `depth` containers may be
open at the same time.
-/

namespace ChangeFeed.Ctags

/-- The whole number in the line field of a record; `line` is the text of the record. -/
def lineNumber (line : Text) : Value → Except Failure Int
  | .int n => .ok n
  | .bool b => .ok (if b then 1 else 0)
  | .text t => (Numeral.read t).mapError fun _ => .ctags (.incomplete line)
  | .real (.infinite _) => .error (.numeral .infinite)
  | .real x =>
    match x.truncate? with
    | some n => .ok n
    | none => .error (.ctags (.incomplete line))
  | _ => .error (.ctags (.incomplete line))

/-- The tag of a record that is marked as one. -/
def tagOfFields (line : Text) (fields : Table) : Except Failure Tag :=
  match fields.get? "path", fields.get? "name", fields.get? "line" with
  | some file, some name, some num =>
    (lineNumber line num).map fun num =>
      { file
        name
        kind := (fields.get? "kind").getD (.text [])
        signature := (fields.get? "signature").getD (.text [])
        line := num }
  | _, _, _ => .error (.ctags (.incomplete line))

/-- The tag of a record, if it is the record of a tag. -/
def tagOfRecord (line : Text) (v : Value) : Except Failure (Option Tag) :=
  match v.entriesFor "get" with
  | .error m => .error (.misuse m)
  | .ok fields =>
    if (fields.get? "_type").any (Value.isText "tag") then (tagOfFields line fields).map some
    else .ok none

/-- The record in a line without blanks at its ends. -/
def readRecord (depth : Nat) (line : Text) : Except Failure Value :=
  match Json.read depth line with
  | .error (.json p) => .error (.ctags (.notJson line p))
  | r => r

/-- The tag in a line, if there is one. -/
def tagOfLine (depth : Nat) (line : Text) : Except Failure (Option Tag) :=
  let line := Text.strip line
  if line = [] then .ok none else readRecord depth line >>= tagOfRecord line

/-- The tags in lines; the first line that cannot be read stops the reading. -/
def tagsOfLines (depth : Nat) : List Text → Except Failure (List Tag)
  | [] => .ok []
  | line :: lines =>
    match tagOfLine depth line with
    | .error f => .error f
    | .ok t => (tagsOfLines depth lines).map (t.toList ++ ·)

/-- The tags of all lines are those of the lines in front and those of the lines behind. -/
theorem tagsOfLines_append (depth : Nat) (front back : List Text) :
    tagsOfLines depth (front ++ back) =
      (tagsOfLines depth front).bind fun ts => (tagsOfLines depth back).map (ts ++ ·) := by
  induction front with
  | nil =>
    simp only [List.nil_append, tagsOfLines, Except.bind]
    cases tagsOfLines depth back <;> rfl
  | cons line front ih =>
    rw [List.cons_append, tagsOfLines, tagsOfLines, ih]
    cases tagOfLine depth line with
    | error f => rfl
    | ok t =>
      cases tagsOfLines depth front with
      | error f => rfl
      | ok ts =>
        cases tagsOfLines depth back with
        | error f => rfl
        | ok us => simp [Except.bind, Except.map]

/-- Empty lines do not count. -/
theorem tagsOfLines_filter (depth : Nat) (lines : List Text) :
    tagsOfLines depth (lines.filter (· ≠ [])) = tagsOfLines depth lines := by
  induction lines with
  | nil => rfl
  | cons line lines ih =>
    by_cases hline : line = []
    · subst hline
      have hnil : tagOfLine depth [] = .ok none := rfl
      have hcons : tagsOfLines depth ([] :: lines) = (tagsOfLines depth lines).map ([] ++ ·) := by
        rw [tagsOfLines, hnil]
        rfl
      rw [List.filter_cons_of_neg (by simp), ih, hcons]
      cases tagsOfLines depth lines <;> rfl
    · rw [List.filter_cons_of_pos (by simpa using hline), tagsOfLines, tagsOfLines, ih]

/-- The tags in a text of records. -/
def tagsOfText (depth : Nat) (t : Text) : Except Failure (List Tag) :=
  tagsOfLines depth (Text.universalLines t)

end ChangeFeed.Ctags
