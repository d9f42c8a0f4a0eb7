import ChangeFeed.Proofs.Grouping
import ChangeFeed.Proofs.Symbol.Spans
import ChangeFeed.Symbol.Correlation

/-!
# Which tags hunks change

The spans of tags are only a means: a hunk changes the tags that govern one of its new lines, and
where it has none, those in front of the gap that start right before it (`Hunk.Reaches`). What is
computed is in between (`Hunk.Touches`); `changed_eq_filter` gets there from the spans, and
`reaches_iff` from there to the lines.

Of a tag, its site decides everything but how the tag is shown: file, name and line. Tags with the
same sites, in the same order, come into the same order by line (`map_site_sortByLine`), and hunks
change tags with the same sites (`map_site_changed`), whatever kinds and signatures they have.
-/

namespace ChangeFeed

/-- The line is one of those of the tag: it starts there or in front, and no tag, of any file,
starts between. -/
def Tag.Governs (tags : List Tag) (n : Int) (t : Tag) : Prop :=
  t.line ≤ n ∧ ∀ u ∈ tags, u.line ≤ n → u.line ≤ t.line

namespace Hunk

/-- The hunk does not end in front of the tag, and no other tag starts between the tag and the hunk,
or with the hunk. -/
def Touches (tags : List Tag) (t : Tag) (h : Hunk) : Prop :=
  t.line ≤ h.newEnd ∧ ∀ u ∈ tags, ¬(t.line < u.line ∧ u.line ≤ h.newStart)

instance (tags : List Tag) (t : Tag) (h : Hunk) : Decidable (h.Touches tags t) :=
  inferInstanceAs (Decidable (_ ∧ _))

/-- The tag governs a line of the new span of the hunk; if that is the gap in front of a line, the
tag starts in front of the gap and no tag starts from there to that line. -/
structure Reaches (tags : List Tag) (t : Tag) (h : Hunk) : Prop where
  lines : h.newStart ≤ h.newEnd → ∃ n, h.newStart ≤ n ∧ n ≤ h.newEnd ∧ t.Governs tags n
  gap : h.newEnd = h.newStart - 1 →
    t.line ≤ h.newEnd ∧ ∀ u ∈ tags, ¬(t.line < u.line ∧ u.line ≤ h.newStart)

variable {tags : List Tag} {t : Tag} {h : Hunk}

/-- The first line that the hunk and the tag can share is the later one of their starts. -/
theorem touches_iff_governs (hle : h.newStart ≤ h.newEnd) :
    h.Touches tags t ↔ ∃ n, h.newStart ≤ n ∧ n ≤ h.newEnd ∧ t.Governs tags n := by
  constructor
  · rintro ⟨hend, hno⟩
    refine ⟨max h.newStart t.line, by omega, by omega, by omega, fun u hu hun => ?_⟩
    have := hno u hu
    omega
  · rintro ⟨n, hs, he, htn, hmax⟩
    refine ⟨by omega, fun u hu => ?_⟩
    have := hmax u hu
    omega

theorem reaches_iff : h.Reaches tags t ↔ (h.newStart - 1 ≤ h.newEnd → h.Touches tags t) := by
  constructor
  · intro hr hle
    rcases Int.lt_or_le h.newEnd h.newStart with hlt | hge
    · exact hr.gap (by omega)
    · exact (touches_iff_governs hge).2 (hr.lines hge)
  · intro ht
    exact ⟨fun hle => (touches_iff_governs hle).1 (ht (by omega)), fun he => ht (by omega)⟩

instance (tags : List Tag) (t : Tag) (h : Hunk) : Decidable (h.Reaches tags t) :=
  decidable_of_iff' _ reaches_iff

theorem meets_iff_touches {e : SpanEnd} (he : e.IsEnd tags t.line) :
    h.meets t.line e ↔ h.Touches tags t := by
  unfold meets Touches
  simp only [Bool.not_eq_true', Bool.or_eq_false_iff, decide_eq_false_iff_not, Int.not_lt]
  rw [Bool.eq_false_iff, ne_eq, he h.newStart, and_comm]
  simp only [not_exists, not_and]

end Hunk

namespace SymbolIndex
variable {tags : List Tag} {hs : List Hunk}

/-- The changed tags are those that a hunk of their file touches, each as often as it is there. -/
theorem changed_eq_filter {x : SymbolIndex} (hx : x.tags.Pairwise fun a b => a.line ≤ b.line) :
    x.changed hs = x.tags.filter
      fun t => ∃ h ∈ hs, Value.sameKey t.file h.filename ∧ h.Touches x.tags t := by
  let p (t : Tag) : Bool := ∃ h ∈ hs, Value.sameKey t.file h.filename ∧ h.Touches x.tags t
  have hsame : ∀ v w, Value.sameKey v w = true ↔ Value.sameKey w v = true := fun v w =>
    ⟨Value.sameKey_equivalence.symm, Value.sameKey_equivalence.symm⟩
  have hp : ∀ s ∈ x.spans, s.changedBy (groupOf Value.sameKey s.tag.file (Hunk.byFile hs)) =
      (p ∘ TagSpan.tag) s := by
    intro s hm
    have hgroup : groupOf Value.sameKey s.tag.file (Hunk.byFile hs) =
        hs.filter fun h => Value.sameKey h.filename s.tag.file :=
      groupOf_groupBy Value.sameKey_equivalence Hunk.filename s.tag.file hs
    rw [hgroup, Bool.eq_iff_iff]
    simp only [p, List.any_eq_true, TagSpan.changedBy, List.mem_filter, Function.comp_apply,
      decide_eq_true_eq, Hunk.meets_iff_touches (isEnd_of_mem_spansOf hx hm), and_assoc,
      hsame s.tag.file]
  calc x.changed hs = (x.spans.filter (p ∘ TagSpan.tag)).map TagSpan.tag := by
        rw [changed, List.filter_congr hp]
    _ = (x.spans.map TagSpan.tag).filter p := List.filter_map.symm
    _ = x.tags.filter p := by rw [spans, spansOf_map_tag]

theorem changed_append {x : SymbolIndex} (hx : x.tags.Pairwise fun a b => a.line ≤ b.line)
    (hs₁ hs₂ : List Hunk) : x.changed (hs₁ ++ hs₂) =
      x.tags.filter fun t => t ∈ x.changed hs₁ ∨ t ∈ x.changed hs₂ := by
  simp only [changed_eq_filter hx]
  refine List.filter_congr fun t ht => ?_
  simp only [decide_eq_decide, List.mem_filter, ht, true_and, decide_eq_true_eq, List.mem_append]
  simp only [or_and_right, exists_or]

/-- For which tags are changed, it does not matter in which order the others are given. -/
theorem changed_sortByLine (tags : List Tag) (hs : List Hunk) :
    changed ⟨sortByLine tags⟩ hs = (sortByLine tags).filter
      fun t => ∃ h ∈ hs, Value.sameKey t.file h.filename ∧ h.Touches tags t := by
  have htouch : ∀ t h, Hunk.Touches (sortByLine tags) t h ↔ h.Touches tags t := fun t h => by
    simp only [Hunk.Touches, (stableOrder_sortByLine tags).mem_iff]
  rw [changed_eq_filter (x := ⟨sortByLine tags⟩) (ordered_sortByLine tags)]
  simp only [htouch]

theorem ofTags_correlate_eq_changed (ht : ∀ t ∈ tags, t.file.isKey)
    (hh : ∀ h ∈ hs, h.filename.isKey) :
    ofTags tags >>= (·.correlate hs) = .ok (changed ⟨sortByLine tags⟩ hs) := by
  have hf : hs.find? (fun h => !h.filename.isKey) = none := by
    rw [List.find?_eq_none]
    intro h hm
    simp [hh h hm]
  rw [ofTags_eq_ok ht]
  change correlate _ hs = _
  simp only [correlate, hf]

/-- The changed tags that are found are those that a hunk of their file touches. -/
theorem ofTags_correlate (ht : ∀ t ∈ tags, t.file.isKey) (hh : ∀ h ∈ hs, h.filename.isKey) :
    ofTags tags >>= (·.correlate hs) = .ok ((sortByLine tags).filter
      fun t => ∃ h ∈ hs, Value.sameKey t.file h.filename ∧ h.Touches tags t) := by
  rw [ofTags_correlate_eq_changed ht hh, changed_sortByLine]

/-- The changed tags are those, in their stable order by line, that a hunk of their file reaches. -/
theorem correlate_eq_filter_reaches (ht : ∀ t ∈ tags, t.file.isKey)
    (hh : ∀ h ∈ hs, h.filename.isKey) (hn : ∀ h ∈ hs, h.newStart - 1 ≤ h.newEnd) :
    ∃ sorted, StableOrder tags sorted ∧ ofTags tags >>= (·.correlate hs) = .ok (sorted.filter
      fun t => ∃ h ∈ hs, Value.sameKey t.file h.filename ∧ h.Reaches tags t) := by
  refine ⟨sortByLine tags, stableOrder_sortByLine tags, (ofTags_correlate ht hh).trans ?_⟩
  congr 1
  refine List.filter_congr fun t _ => ?_
  simp only [decide_eq_decide]
  refine exists_congr fun h => and_congr_right fun hm => ?_
  rw [Hunk.reaches_iff, forall_prop_of_true (hn h hm)]

/-- Tags of two files, of which two are on the same line. -/
def interleaved : List Tag := [
  { file := .text "a.go", name := .text "Open", line := 10 },
  { file := .text "b.go", name := .text "Read", line := 4 },
  { file := .text "a.go", name := .text "New", line := 1 },
  { file := .text "a.go", name := .text "Close", line := 10 }]

theorem sortByLine_interleaved : sortByLine interleaved = [
    { file := .text "a.go", name := .text "New", line := 1 },
    { file := .text "b.go", name := .text "Read", line := 4 },
    { file := .text "a.go", name := .text "Open", line := 10 },
    { file := .text "a.go", name := .text "Close", line := 10 }] := by
  simp [sortByLine, interleaved, List.mergeSort, List.MergeSort.Internal.splitInTwo]

/-- A hunk with new lines, and one that only leaves a gap. -/
def linesAndGap : List Hunk := [
  { filename := .text "a.go", oldStart := 4, oldEnd := 4, newStart := 4, newEnd := 5 },
  { filename := .text "a.go", oldStart := 15, oldEnd := 17, newStart := 15, newEnd := 14 }]

theorem correlate_interleaved :
    (∀ t ∈ interleaved, t.file.isKey) ∧ (∀ h ∈ linesAndGap, h.filename.isKey) ∧
      (∀ h ∈ linesAndGap, h.newStart - 1 ≤ h.newEnd) ∧
      ∃ sorted, StableOrder interleaved sorted ∧
        ofTags interleaved >>= (·.correlate linesAndGap) = .ok (sorted.filter
          fun t => ∃ h ∈ linesAndGap, Value.sameKey t.file h.filename ∧
            h.Reaches interleaved t) := by
  have ht : ∀ t ∈ interleaved, t.file.isKey := by decide
  have hh : ∀ h ∈ linesAndGap, h.filename.isKey := by decide
  have hn : ∀ h ∈ linesAndGap, h.newStart - 1 ≤ h.newEnd := by decide
  exact ⟨ht, hh, hn, correlate_eq_filter_reaches ht hh hn⟩

/-- The new lines are those of a tag of the other file, so that only the gap changes tags. -/
example : (changed ⟨sortByLine interleaved⟩ linesAndGap).map Tag.name =
    [.text "Open", .text "Close"] := by cbv

end SymbolIndex

/-! ### Sites -/

/-- Where a tag says that a definition stands: file, name and line. -/
def Tag.site (t : Tag) : Value × Value × Int := (t.file, t.name, t.line)

namespace SymbolIndex

variable {ts us : List Tag}

theorem map_site_sortByLine (ts : List Tag) : (sortByLine ts).map Tag.site =
    (ts.map Tag.site).mergeSort fun a b => decide (a.2.2 ≤ b.2.2) :=
  List.map_mergeSort fun _ _ _ _ => rfl

/-- Whether a hunk touches the tag of a site, of tags on the given lines. -/
def touchesSite (lines : List Int) (hs : List Hunk) (site : Value × Value × Int) : Bool :=
  decide (∃ h ∈ hs, Value.sameKey site.1 h.filename ∧ site.2.2 ≤ h.newEnd ∧
    ∀ n ∈ lines, ¬(site.2.2 < n ∧ n ≤ h.newStart))

theorem map_site_changed_eq (ts : List Tag) (hs : List Hunk) :
    (changed ⟨sortByLine ts⟩ hs).map Tag.site = ((sortByLine ts).map Tag.site).filter
      (touchesSite (((sortByLine ts).map Tag.site).map fun site => site.2.2) hs) := by
  rw [changed_eq_filter (x := ⟨sortByLine ts⟩) (ordered_sortByLine ts), List.filter_map]
  congr 1
  refine List.filter_congr fun t _ => ?_
  simp only [Function.comp_apply, touchesSite, Hunk.Touches, List.map_map, List.forall_mem_map]
  rfl

theorem map_site_changed (h : ts.map Tag.site = us.map Tag.site) (hs : List Hunk) :
    (changed ⟨sortByLine ts⟩ hs).map Tag.site = (changed ⟨sortByLine us⟩ hs).map Tag.site := by
  have hsorted : (sortByLine ts).map Tag.site = (sortByLine us).map Tag.site := by
    rw [map_site_sortByLine, map_site_sortByLine, h]
  rw [map_site_changed_eq, map_site_changed_eq, hsorted]

theorem isKey_of_map_site (h : ts.map Tag.site = us.map Tag.site) (ht : ∀ t ∈ ts, t.file.isKey) :
    ∀ u ∈ us, u.file.isKey := by
  intro u hu
  have hmem : u.site ∈ ts.map Tag.site := h ▸ List.mem_map_of_mem hu
  obtain ⟨t, htm, hsite⟩ := List.mem_map.1 hmem
  have hfile : t.file = u.file := congrArg Prod.fst hsite
  exact hfile ▸ ht t htm

end SymbolIndex

end ChangeFeed
