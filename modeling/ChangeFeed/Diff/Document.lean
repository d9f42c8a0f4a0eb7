import ChangeFeed.Diff.Hunk
import ChangeFeed.Text.Lines

/-!
Unified diffs as documents.

A document has sections for files, and a section has chunks, each of which shows one region of
change with its header and its lines. `render` writes a document, and `hunks` are the regions that
it shows. There the lines of the new version are counted from the last line of the new span on.
-/

namespace ChangeFeed.Diff

/-- One side of the header of a chunk: where the region starts, and how many lines it has there. -/
structure Extent where
  start : Nat
  count : Nat
  /-- Whether a count of one is left out. -/
  brief : Bool := false
  deriving DecidableEq, Repr

namespace Extent

/-- The side as the header has it. -/
def render (e : Extent) : Text :=
  if e.brief && e.count == 1 then Text.ofNat e.start
  else Text.ofNat e.start ++ "," ++ Text.ofNat e.count

/-- The last line of the region; without lines it is the one before the start. -/
def last (e : Extent) : Int := e.start + e.count - 1

end Extent

/-- A line in the body of a chunk. -/
inductive BodyLine where
  /-- A line of both versions. -/
  | kept (t : Text)
  /-- A line of the new version only. -/
  | added (t : Text)
  /-- A line of the old version only. -/
  | removed (t : Text)
  deriving DecidableEq, Repr

namespace BodyLine

/-- The line as the body has it, behind its mark. -/
def render : BodyLine → Text
  | kept t => ' ' :: t
  | added t => '+' :: t
  | removed t => '-' :: t

/-- Whether the line is in the old version. -/
def isOld : BodyLine → Bool
  | added _ => false
  | _ => true

/-- Whether the line is in the new version. -/
def isNew : BodyLine → Bool
  | removed _ => false
  | _ => true

/-- The removed lines of a body whose first old line has the number `num`. -/
def removedFrom (num : Int) : List BodyLine → List Line
  | [] => []
  | kept _ :: body => removedFrom (num + 1) body
  | added _ :: body => removedFrom num body
  | removed t :: body => ⟨num, t⟩ :: removedFrom (num + 1) body

/-- The added lines of a body whose first new line has the number `num`. -/
def addedFrom (num : Int) : List BodyLine → List Line
  | [] => []
  | kept _ :: body => addedFrom (num + 1) body
  | added t :: body => ⟨num, t⟩ :: addedFrom (num + 1) body
  | removed _ :: body => addedFrom num body

end BodyLine

/-- A region of change as a diff shows it. -/
structure Chunk where
  old : Extent
  new : Extent
  /-- What stands behind the two sides in the header. -/
  heading : Text := []
  body : List BodyLine := []
  deriving DecidableEq, Repr

namespace Chunk

/-- The header of the chunk. -/
def header (c : Chunk) : Text :=
  "@@ -" ++ c.old.render ++ " +" ++ c.new.render ++ " @@" ++ c.heading

/-- The lines of the chunk. -/
def lines (c : Chunk) : List Text := c.header :: c.body.map BodyLine.render

/-- Whether the header counts the lines of the body. -/
def counted (c : Chunk) : Bool :=
  c.old.count == c.body.countP BodyLine.isOld && c.new.count == c.body.countP BodyLine.isNew

/-- The added lines with their numbers in the new version. -/
def additions (c : Chunk) : List Line := BodyLine.addedFrom c.new.start c.body

/-- The region that the chunk shows, in a file. -/
def hunk (path : Text) (c : Chunk) : Hunk where
  filename := .text path
  oldStart := c.old.start
  oldEnd := c.old.last
  newStart := c.new.start
  newEnd := c.new.last
  oldLines := BodyLine.removedFrom c.old.start c.body
  newLines := BodyLine.addedFrom c.new.last c.body

end Chunk

/-- What a diff shows of one file. -/
structure Section where
  oldPath : Text
  newPath : Text
  /-- The lines between the header and the first chunk. -/
  about : List Text := []
  chunks : List Chunk := []
  deriving DecidableEq, Repr

namespace Section

/-- The header of the section. -/
def header (s : Section) : Text := "diff --git a/" ++ s.oldPath ++ " b/" ++ s.newPath

/-- The lines of the section. -/
def lines (s : Section) : List Text := s.header :: s.about ++ s.chunks.flatMap Chunk.lines

/-- The regions that the section shows. -/
def hunks (s : Section) : List Hunk := s.chunks.map (Chunk.hunk s.oldPath)

end Section

/-- A diff. -/
structure Document where
  /-- The lines in front of the first section. -/
  preamble : List Text := []
  sections : List Section := []
  deriving DecidableEq, Repr

namespace Document

/-- The lines of the diff. -/
def lines (d : Document) : List Text := d.preamble ++ d.sections.flatMap Section.lines

/-- The text of the diff. -/
def render (d : Document) : Text := Text.ofLines d.lines

/-- The regions that the diff shows. -/
def hunks (d : Document) : List Hunk := d.sections.flatMap Section.hunks

end Document

end ChangeFeed.Diff
