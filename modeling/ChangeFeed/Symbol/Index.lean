import ChangeFeed.Grouping
import ChangeFeed.Symbol.Tag
import ChangeFeed.Value.Misuse

/-!
The index of tags by line.

The tags of all files stand in one order by line; tags of the same line keep their order. The span
of a tag reaches up to the line before the next line that has a tag, whatever the file of that tag,
and behind the last such line to the end of the file.
-/

namespace ChangeFeed

/-- The last line of a span. -/
inductive SpanEnd where
  | line (n : Int)
  /-- The end of the file, wherever that is. -/
  | fileEnd
  deriving DecidableEq, Repr

/-- Whether a line lies behind the end of a span. -/
def SpanEnd.isBefore (n : Int) : SpanEnd → Bool
  | line m => decide (m < n)
  | fileEnd => false

/-- A tag with the last line of its span, which starts at the line of the tag. -/
structure TagSpan where
  tag : Tag
  last : SpanEnd
  deriving DecidableEq, Repr

/-- Tags in the order of their lines. -/
structure SymbolIndex where
  tags : List Tag
  deriving DecidableEq, Repr

namespace SymbolIndex

/-- Tags in the order of their lines; tags of the same line keep their order. -/
def sortByLine (tags : List Tag) : List Tag := tags.mergeSort fun a b => decide (a.line ≤ b.line)

/-- The index of tags, whose files have to be keys. -/
def ofTags (tags : List Tag) : Except Misuse SymbolIndex :=
  let sorted := sortByLine tags
  match sorted.find? fun t => !t.file.isKey with
  | some t => .error (.notKey t.file.kindName)
  | none => .ok ⟨sorted⟩

/-- Where the tags with the given line start that stand one after the other in front of position
`n`. -/
def groupStart (ts : Array Tag) (line : Int) : (n : Nat) → n ≤ ts.size → Nat
  | 0, _ => 0
  | n + 1, h => if ts[n].line = line then groupStart ts line n (by omega) else n + 1

theorem groupStart_le (ts : Array Tag) (line : Int) (n : Nat) (h : n ≤ ts.size) :
    groupStart ts line n h ≤ n := by
  induction n with
  | zero => exact Nat.le_refl 0
  | succ n ih =>
    rw [groupStart]
    split
    · exact Nat.le_succ_of_le (ih _)
    · exact Nat.le_refl _

/-- The ends with `bound` at the positions from `first` on that are below `stop`. -/
def fill {size : Nat} (bound : SpanEnd) (first : Nat) :
    (stop : Nat) → stop ≤ size → Vector SpanEnd size → Vector SpanEnd size
  | 0, _, ends => ends
  | n + 1, h, ends => if first ≤ n then fill bound first n (by omega) (ends.set n bound) else ends

/-- The ends when only those of the first `left` tags are still to be found, the last of which have
the end `bound`. Tags of the same line have the same end, and those in front of them end one line
before it. -/
def endsFrom (ts : Array Tag) (left : Nat) (h : left ≤ ts.size) (bound : SpanEnd)
    (ends : Vector SpanEnd ts.size) : Vector SpanEnd ts.size :=
  match left with
  | 0 => ends
  | i + 1 =>
    let line := ts[i].line
    let first := groupStart ts line i (by omega)
    have hle : first ≤ i := groupStart_le ts line i (by omega)
    endsFrom ts first (by omega) (.line (line - 1)) (fill bound first (i + 1) h ends)
termination_by left
decreasing_by exact Nat.lt_succ_of_le hle

/-- The ends of the spans of tags that are in order, found from the last tag to the first. -/
def implicitEnds (ts : Array Tag) : Vector SpanEnd ts.size :=
  endsFrom ts ts.size (Nat.le_refl _) .fileEnd (Vector.replicate ts.size .fileEnd)

/-- The spans of tags that are in order. -/
def spansOf (ts : List Tag) : List TagSpan :=
  ts.zipWith TagSpan.mk (implicitEnds ts.toArray).toList

/-- The tags with their spans, in order. -/
def spans (x : SymbolIndex) : List TagSpan := spansOf x.tags

theorem spansOf_map_tag (ts : List Tag) : (spansOf ts).map TagSpan.tag = ts := by
  have h : (ts.zip (implicitEnds ts.toArray).toList).map Prod.fst = ts :=
    List.map_fst_zip (by simp)
  rw [List.zip, List.map_zipWith] at h
  rw [spansOf, List.map_zipWith]
  exact h

/-- The end of the span of the tag at a position; a negative position counts from the end. -/
def endAt (x : SymbolIndex) (position : Value) : Except Misuse SpanEnd :=
  (position.elementOf x.spans).map TagSpan.last

/-- The positions of the tags of each file, in the order in which the files come up. -/
def byFile (x : SymbolIndex) : List (Value × List Nat) :=
  positionsBy Value.sameKey Tag.file x.tags

/-- The files, in the order in which they come up. -/
def files (x : SymbolIndex) : List Value := x.byFile.map Prod.fst

/-- The positions of the tags of a file. -/
def positionsIn (x : SymbolIndex) (file : Value) : List Nat := groupOf Value.sameKey file x.byFile

/-- The tags of a file. -/
def inFile (x : SymbolIndex) (file : Value) : List Tag := elementsAt x.tags (x.positionsIn file)

/-- The tags of a file that is asked for by a value, which has to be a key. -/
def lookUp (x : SymbolIndex) (file : Value) : Except Misuse (List Tag) :=
  if file.isKey then .ok (x.inFile file) else .error (.notKey file.kindName)

/-- The tags file by file. -/
def regrouped (x : SymbolIndex) : List Tag := x.files.flatMap x.inFile

end SymbolIndex

end ChangeFeed
