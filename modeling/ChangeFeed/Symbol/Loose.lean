import ChangeFeed.Reference.Scanner
import ChangeFeed.Report.Entries
import ChangeFeed.Symbol.Correlation
import ChangeFeed.Value.Order

/-!
Tags and hunks of which the lines may be any values.

Data from elsewhere may have anything in the place of a line number. Where all of them are whole
numbers, such tags and hunks are the ordinary ones. Otherwise the numbers among them are compared by
what they are worth, and the first pair that cannot be compared stops everything.
-/

namespace ChangeFeed

/-- A tag with a value for its line; the line of the tag itself says nothing. -/
structure LooseTag where
  tag : Tag
  line : Value
  deriving DecidableEq, Repr

namespace LooseTag

/-- A tag with its line as a value. -/
def ofTag (t : Tag) : LooseTag := ⟨t, .int t.line⟩

/-- The tag, if its line is a whole number. -/
def strict? (t : LooseTag) : Option Tag :=
  match t.line with
  | .int n => some { t.tag with line := n }
  | _ => none

/-- The entries of a tag. -/
def entries (t : LooseTag) : Table := Table.set "line" t.line t.tag.entries

/-- File, line and display, as `file:3 func f()`. -/
def summary (t : LooseTag) : Text :=
  t.tag.file.display ++ ":" ++ t.line.display ++ " " ++ t.tag.display

/-- Whether the line of a tag is below that of another one. -/
def isBelow (a b : LooseTag) : Except Misuse Bool := Value.compare false a.line b.line

end LooseTag

/-- A tag with the last line of its span as a value. -/
structure LooseSpan where
  tag : LooseTag
  last : Value
  deriving DecidableEq, Repr

/-- The end of a span as a value: an infinite number stands for the end of the file. -/
def SpanEnd.toValue : SpanEnd → Value
  | line n => .int n
  | fileEnd => .real (.infinite false)

/-- Spans in the order of their lines. -/
structure LooseIndex where
  spans : List LooseSpan
  deriving DecidableEq, Repr

namespace LooseIndex

/-- The index of ordinary tags. -/
def ofIndex (x : SymbolIndex) : LooseIndex :=
  ⟨x.spans.map fun s => ⟨.ofTag s.tag, s.last.toValue⟩⟩

/-- The ends of spans, the last one first, for lines in the same order. The spans of lines that
equal `line` end with `last`. -/
def endsFrom (line last : Value) : List Value → Except Misuse (List Value)
  | [] => line.lessOne.map fun _ => []
  | l :: ls => do
    if Value.equal l line then return last :: (← endsFrom line last ls)
    else
      let bound ← line.lessOne
      return bound :: (← endsFrom l bound ls)

/-- The ends of the spans of lines that are in order. -/
def endsOf (lines : List Value) : Except Misuse (List Value) :=
  match lines.reverse with
  | [] => .ok []
  | l :: ls =>
    let last := SpanEnd.fileEnd.toValue
    (endsFrom l last ls).map fun ends => (last :: ends).reverse

/-- The index of tags whose lines are not all whole numbers. -/
def ofLoose (tags : List LooseTag) : Except Misuse LooseIndex := do
  let sorted ← Value.sortWith LooseTag.isBelow tags
  let ends ← endsOf (sorted.map LooseTag.line)
  match sorted.find? fun t => !t.tag.file.isKey with
  | some t => throw (.notKey t.tag.file.kindName)
  | none => return ⟨sorted.zipWith LooseSpan.mk ends⟩

/-- The index of tags, whose files have to be keys. -/
def ofTags (tags : List LooseTag) : Except Misuse LooseIndex :=
  match tags.mapM LooseTag.strict? with
  | some ts => (SymbolIndex.ofTags ts).map ofIndex
  | none => ofLoose tags

/-- The tags in order. -/
def tags (x : LooseIndex) : List LooseTag := x.spans.map LooseSpan.tag

/-- The positions of the tags of each file, in the order in which the files come up. -/
def byFile (x : LooseIndex) : List (Value × List Nat) :=
  positionsBy Value.sameKey (fun t => t.tag.file) x.tags

/-- The files, in the order in which they come up. -/
def files (x : LooseIndex) : List Value := x.byFile.map Prod.fst

/-- The tags of a file that is asked for by a value, which has to be a key. -/
def lookUp (x : LooseIndex) (file : Value) : Except Misuse (List LooseTag) :=
  if file.isKey then .ok (elementsAt x.tags (groupOf Value.sameKey file x.byFile))
  else .error (.notKey file.kindName)

theorem tags_ofIndex (x : SymbolIndex) : (ofIndex x).tags = x.tags.map .ofTag := by
  rw [← SymbolIndex.spansOf_map_tag x.tags, List.map_map, tags, ofIndex, List.map_map]
  rfl

theorem byFile_ofIndex (x : SymbolIndex) : (ofIndex x).byFile = x.byFile := by
  rw [byFile, SymbolIndex.byFile, tags_ofIndex, positionsBy, positionsBy, List.zipIdx_map,
    List.map_map]
  rfl

/-- The tags of a file are looked up alike, whether their lines are numbers or any values. -/
theorem lookUp_ofIndex (x : SymbolIndex) (file : Value) :
    (ofIndex x).lookUp file = (x.lookUp file).map (List.map .ofTag) := by
  rw [lookUp, SymbolIndex.lookUp, byFile_ofIndex, tags_ofIndex]
  split
  · refine congrArg Except.ok ?_
    rw [SymbolIndex.inFile, SymbolIndex.positionsIn, elementsAt, elementsAt, List.map_filterMap]
    simp only [List.getElem?_map]
  · rfl

end LooseIndex

/-- A hunk with values for its bounds and lines, of which each has a number and a text. -/
structure LooseHunk where
  filename : Value
  oldStart : Value
  oldEnd : Value
  newStart : Value
  newEnd : Value
  oldLines : List (Value × Value) := []
  newLines : List (Value × Value) := []
  deriving DecidableEq, Repr

namespace LooseHunk

/-- A hunk with its bounds and lines as values. -/
def ofHunk (h : Hunk) : LooseHunk :=
  let lines (ls : List Line) : List (Value × Value) := ls.map fun l => (.int l.num, .text l.text)
  { filename := h.filename
    oldStart := .int h.oldStart
    oldEnd := .int h.oldEnd
    newStart := .int h.newStart
    newEnd := .int h.newEnd
    oldLines := lines h.oldLines
    newLines := lines h.newLines }

/-- The lines, if their numbers are whole and their texts are texts. -/
def strictLines? (ls : List (Value × Value)) : Option (List Line) :=
  ls.mapM fun l =>
    match l with
    | (.int n, .text t) => some ⟨n, t⟩
    | _ => none

/-- The hunk, if all its bounds and lines are what they are in ordinary ones. -/
def strict? (h : LooseHunk) : Option Hunk :=
  match h.oldStart, h.oldEnd, h.newStart, h.newEnd, strictLines? h.oldLines,
      strictLines? h.newLines with
  | .int oldStart, .int oldEnd, .int newStart, .int newEnd, some oldLines, some newLines =>
    some { filename := h.filename, oldStart, oldEnd, newStart, newEnd, oldLines, newLines }
  | _, _, _, _, _, _ => none

/-- The entries of a hunk. -/
def entries (h : LooseHunk) : Table :=
  let lines (ls : List (Value × Value)) : Value :=
    .list (ls.map fun l => .table [("num", l.1), ("text", l.2)])
  [("filename", h.filename), ("old_start", h.oldStart), ("old_end", h.oldEnd),
    ("old_lines", lines h.oldLines), ("new_start", h.newStart), ("new_end", h.newEnd),
    ("new_lines", lines h.newLines)]

/-- Whether the span from `start` to `last` meets the new span of a hunk. -/
def meets (h : LooseHunk) (start last : Value) : Except Misuse Bool :=
  match h.strict?, start, last with
  | some h, .int start, .int last => .ok (h.meets start (.line last))
  | some h, .int start, .real (.infinite false) => .ok (h.meets start .fileEnd)
  | _, _, _ => do
    if ← Value.compare true h.newStart last then return false
    return !(← Value.compare false h.newEnd start)

/-- Whether a hunk changes a tag with the given span. -/
def changes (h : LooseHunk) (s : LooseSpan) : Except Misuse Bool :=
  if Value.sameKey s.tag.tag.file h.filename then h.meets s.tag.line s.last else .ok false

/-- The hunk with its added lines numbered from `next` on. -/
def numbered (next : Nat) (h : LooseHunk) : Except Misuse Hunk := do
  let texts ← h.newLines.mapM fun l => l.2.searchedText
  return {
    filename := h.filename
    oldStart := 0
    oldEnd := 0
    newStart := 0
    newEnd := 0
    newLines := texts.zipIdx next |>.map fun l => ⟨l.2, l.1⟩ }

end LooseHunk

/-- Whether one of some hunks changes a tag with the given span. -/
def LooseSpan.changedBy (s : LooseSpan) : List LooseHunk → Except Misuse Bool
  | [] => .ok false
  | h :: hs => do
    if ← h.changes s then return true else s.changedBy hs

/-- The tags that hunks change, whose files have to be keys. -/
def LooseIndex.correlate (x : LooseIndex) (hs : List LooseHunk) :
    Except Misuse (List LooseTag) := do
  match hs.find? fun h => !h.filename.isKey with
  | some h => throw (.notKey h.filename.kindName)
  | none => return (← x.spans.filterM fun s => s.changedBy hs).map LooseSpan.tag

/-- The tags that hunks change. -/
def changedTags (tags : List LooseTag) (hs : List LooseHunk) : Except Misuse (List LooseTag) :=
  match tags.mapM LooseTag.strict?, hs.mapM LooseHunk.strict? with
  | some tags, some hs => do
    let x ← SymbolIndex.ofTags tags
    return (← x.correlate hs).map .ofTag
  | _, _ => do
    let x ← LooseIndex.ofTags tags
    x.correlate hs

/-- The entries of the references in the added lines of hunks. -/
def Scanner.scanLoose (s : Scanner) (hs : List LooseHunk) : Except Misuse (List Table) := do
  let numbers := hs.flatMap fun h => h.newLines.map Prod.fst
  let starts := hs.scanl (fun n h => n + h.newLines.length) 0
  let numbered ← (hs.zip starts).mapM fun h => h.1.numbered h.2
  return (s.scan numbered).map fun r =>
    Table.set "line" (numbers.getD r.line.toNat .null) r.entries

end ChangeFeed
