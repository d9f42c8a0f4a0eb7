import ChangeFeed.Diff.Hunk
import ChangeFeed.Symbol.Index

/-!
Which tags a commit changes.

A tag is changed when its span meets the new span of a hunk of its file.
-/

namespace ChangeFeed

/-- Whether the span from `start` to `last` meets the new span of a hunk. -/
def Hunk.meets (start : Int) (last : SpanEnd) (h : Hunk) : Bool :=
  !(last.isBefore h.newStart || decide (h.newEnd < start))

/-- Whether one of the hunks of its file changes a tag with the given span. -/
def TagSpan.changedBy (s : TagSpan) (hs : List Hunk) : Bool :=
  hs.any fun h => h.meets s.tag.line s.last

/-- The tags that hunks change, in the order of their lines. The hunks of the file of a tag are
looked up among those of all files. -/
def SymbolIndex.changed (x : SymbolIndex) (hs : List Hunk) : List Tag :=
  let groups := Hunk.byFile hs
  (x.spans.filter fun s => s.changedBy (groupOf Value.sameKey s.tag.file groups)).map TagSpan.tag

/-- The tags that hunks change, whose files have to be keys. -/
def SymbolIndex.correlate (x : SymbolIndex) (hs : List Hunk) : Except Misuse (List Tag) :=
  match hs.find? fun h => !h.filename.isKey with
  | some h => .error (.notKey h.filename.kindName)
  | none => .ok (x.changed hs)

theorem SymbolIndex.changed_sublist (x : SymbolIndex) (hs : List Hunk) :
    (x.changed hs).Sublist x.tags := by
  have h : (x.changed hs).Sublist (x.spans.map TagSpan.tag) := List.filter_sublist.map TagSpan.tag
  rwa [spans, spansOf_map_tag] at h

end ChangeFeed
