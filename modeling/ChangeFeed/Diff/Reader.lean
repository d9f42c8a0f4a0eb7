import ChangeFeed.Attempt
import ChangeFeed.Diff.Header
import ChangeFeed.Diff.Hunk
import ChangeFeed.Failure
import ChangeFeed.Text.Lines

/-!
Reading a unified diff line by line.

A reader knows the file that it is in, the numbers of the next removed and the next added line, the
hunk that is open and the hunks that it has found. It keeps them apart, and it does not find out for
itself whether they fit together: a line may be counted only where its number is known. Lines that
it does not understand are passed over. The number of the next added line starts at the last line of
the hunk's new span.

A hunk is made once and gets its lines afterwards, so the open hunk and the hunks that were found
are told by their places among all hunks that were ever made.
-/

namespace ChangeFeed.Diff

/-- A hunk that is being made. A line of it may have been kept while its number was unknown. -/
structure Draft where
  filename : Option Text
  oldStart : Int
  oldEnd : Int
  newStart : Int
  newEnd : Int
  oldLines : List (Option Int × Text) := []
  newLines : List (Option Int × Text) := []
  deriving DecidableEq, Repr

namespace Draft

/-- The lines with known numbers. -/
def known (ls : List (Option Int × Text)) : List Line :=
  ls.filterMap fun l => l.1.map fun n => ⟨n, l.2⟩

/-- The hunk. -/
def hunk (d : Draft) : Hunk where
  filename := d.filename.elim .null .text
  oldStart := d.oldStart
  oldEnd := d.oldEnd
  newStart := d.newStart
  newEnd := d.newEnd
  oldLines := known d.oldLines
  newLines := known d.newLines

end Draft

namespace Span

/-- The first line and the number of lines of a span; a count that is not given is one. -/
def read (s : Span) : Except Numeral.Problem (Int × Int) := do
  let start ← Numeral.ofDecimals? s.start
  let count ← match s.count with
    | some ds => Numeral.ofDecimals? ds
    | none => pure 1
  return (start, count)

end Span

/-- What is known while a diff is read. -/
structure Reader where
  filename : Option Text := none
  oldNext : Option Int := none
  newNext : Option Int := none
  /-- The place of the open hunk. -/
  current : Option Nat := none
  /-- The places of the hunks that were found, in order. -/
  found : List Nat := []
  /-- All hunks that were ever made. -/
  made : List Draft := []
  deriving DecidableEq, Repr

namespace Reader

/-- The hunk at a place. -/
def hunkAt? (r : Reader) (i : Nat) : Option Hunk := r.made[i]?.map Draft.hunk

/-- The hunk that is open. -/
def hunk? (r : Reader) : Option Hunk := r.current.bind r.hunkAt?

/-- The hunks that were found. -/
def hunks (r : Reader) : List Hunk := r.found.filterMap r.hunkAt?

/-- The number behind one that has to be known. -/
def following : Option Int → Except Failure Int
  | some n => .ok (n + 1)
  | none => .error (.misuse (.notIncreased "NoneType"))

/-- Counts a line of the old version. -/
def countOld : Attempt Reader Failure Unit := do
  let n ← Attempt.ofExcept id (following (← get).oldNext)
  modify fun r => { r with oldNext := some n }

/-- Counts a line of the new version. -/
def countNew : Attempt Reader Failure Unit := do
  let n ← Attempt.ofExcept id (following (← get).newNext)
  modify fun r => { r with newNext := some n }

/-- Forgets everything but the hunks that were made, which others may have kept. -/
def reset : Attempt Reader Failure Unit := modify fun r => { made := r.made }

/-- Enters the section of a file. -/
def enterFile (path : Text) : Attempt Reader Failure Unit := do
  modify fun r => { r with filename := some path }
  modify fun r => { r with oldNext := none, newNext := none }
  modify fun r => { r with current := none }

/-- Opens a hunk, whose spans are read before anything is done. -/
def openHunk (old new : Span) : Attempt Reader Failure Unit := do
  let (oldStart, oldCount) ← Attempt.ofExcept .numeral old.read
  let (newStart, newCount) ← Attempt.ofExcept .numeral new.read
  let oldEnd := oldStart + oldCount - 1
  let newEnd := newStart + newCount - 1
  modify fun r => { r with oldNext := some oldStart, newNext := some newEnd }
  modify fun r => { r with
    current := some r.made.length
    made := r.made ++ [{ filename := r.filename, oldStart, oldEnd, newStart, newEnd }] }
  modify fun r => { r with found := r.found ++ r.current.toList }

/-- Keeps a removed line in the hunk at a place. -/
def keepOld (i : Nat) (t : Text) (r : Reader) : Reader :=
  { r with made := r.made.modify i fun d => { d with oldLines := d.oldLines ++ [(r.oldNext, t)] } }

/-- Keeps an added line in the hunk at a place. -/
def keepNew (i : Nat) (t : Text) (r : Reader) : Reader :=
  { r with made := r.made.modify i fun d => { d with newLines := d.newLines ++ [(r.newNext, t)] } }

/-- Takes in a line of content for the hunk at a place. -/
def contentAt (i : Nat) : LineKind → Attempt Reader Failure Unit
  | .added t => do
    modify (keepNew i t)
    countNew
  | .removed t => do
    modify (keepOld i t)
    countOld
  | _ => do
    countOld
    countNew

/-- Takes in a line of content, of which nothing is made where no hunk is open. -/
def content (kind : LineKind) : Attempt Reader Failure Unit := do
  match (← get).current with
  | none => return
  | some i => contentAt i kind

/-- Takes in a line of the given kind. Outside the section of a file, only the start of one is
looked for. -/
def step (kind : LineKind) : Attempt Reader Failure Unit := do
  let isInFile := (← get).filename.isSome
  match kind with
  | .fileHeader path => enterFile path
  | .about => return
  | .hunkHeader old new => if isInFile then openHunk old new
  | .added _ | .removed _ | .context => if isInFile then content kind

/-- Takes in a line, of which one carriage return at the end does not count. -/
def feed (line : Text) : Attempt Reader Failure Unit := step (.of (Text.dropReturn line))

/-- Reads a whole diff, which has to be a text, and returns its hunks. What was known before is
forgotten in any case. -/
def parse (diff : Value) : Attempt Reader Failure (List Hunk) := do
  reset
  let t ← Attempt.ofExcept .misuse (diff.textFor "split")
  (Text.splitLines t).forM feed
  return (← get).hunks

end Reader

/-- The hunks of a diff. -/
def parse (t : Text) : Except Failure (List Hunk) := ((Reader.parse (.text t)).exec {}).1

end ChangeFeed.Diff
