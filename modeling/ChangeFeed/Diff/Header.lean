import ChangeFeed.Text.Blank
import ChangeFeed.Text.Digit

/-!
The kinds of lines in a unified diff.

What a line is depends on the line alone: the header of a file, a line about the file, the header of
a hunk, or content. Whether it is looked at depends on what came before it.
-/

namespace ChangeFeed.Diff

/-- One side of a hunk header: the first line and the number of lines, as digits. -/
structure Span where
  start : Text
  count : Option Text
  deriving DecidableEq, Repr

/-- What a line of a diff is, by its own text. -/
inductive LineKind where
  /-- The start of the section of a file. -/
  | fileHeader (path : Text)
  /-- A line about the file, which says nothing of its content. -/
  | about
  /-- The start of a hunk. -/
  | hunkHeader (old new : Span)
  | added (t : Text)
  | removed (t : Text)
  | context
  deriving DecidableEq, Repr

/-- The run of characters that are no blanks at the start of a text, and what follows it. -/
def scanPath (t : Text) : Text × Text := t.span fun c => !Text.isBlank c

/-- The path in the header of a file: the one behind `a/`, if a path behind `b/` follows. -/
def scanFileHeader? (line : Text) : Option Text :=
  match Text.rest? "diff --git a/" line with
  | none => none
  | some t =>
    let (path, t) := scanPath t
    match Text.rest? " b/" t with
    | none => none
    | some t => if path = [] ∨ (scanPath t).1 = [] then none else some path

/-- The run of digits at the start of a text, if there is one, and what follows it. -/
def scanDigits? (t : Text) : Option (Text × Text) :=
  match t.span Text.isDecimal with
  | ([], _) => none
  | (ds, t) => some (ds, t)

/-- A start with an optional count behind a comma, and what follows. -/
def scanSpan? (t : Text) : Option (Span × Text) :=
  match scanDigits? t with
  | none => none
  | some (start, t) =>
    match t with
    | ',' :: r =>
      match scanDigits? r with
      | none => none
      | some (count, r) => some (⟨start, some count⟩, r)
    | t => some (⟨start, none⟩, t)

/-- The two spans in the header of a hunk. -/
def scanHunkHeader? (line : Text) : Option (Span × Span) := do
  let t ← Text.rest? "@@ -" line
  let (old, t) ← scanSpan? t
  let t ← Text.rest? " +" t
  let (new, t) ← scanSpan? t
  let _ ← Text.rest? " @@" t
  return (old, new)

/-- Whether a line says something about a file and nothing of its content. -/
def isAbout (line : Text) : Bool :=
  Text.startsWith "diff --git" line || Text.startsWith "index " line ||
    Text.startsWith "---" line || Text.startsWith "+++" line

/-- What a line of a diff is. -/
def LineKind.of (line : Text) : LineKind :=
  match scanFileHeader? line with
  | some path => .fileHeader path
  | none =>
    if isAbout line then .about
    else match scanHunkHeader? line with
      | some (old, new) => .hunkHeader old new
      | none =>
        match line with
        | '+' :: t => .added t
        | '-' :: t => .removed t
        | _ => .context

end ChangeFeed.Diff
