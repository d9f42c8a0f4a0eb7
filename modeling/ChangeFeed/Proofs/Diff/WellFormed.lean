import ChangeFeed.Proofs.Diff.Session
import ChangeFeed.Proofs.Diff.Header
import Mathlib.Tactic.MkIffOfInductiveProp

/-!
# Documents that can be rendered

`Document.WellFormed` is what a diff has to be for its lines to be told apart: no line holds a
newline, no line in front of the first section is the header of a file, no line about a file is a
header, and the numbers in the headers of chunks are not too long to be read. The texts in the
bodies of chunks may be any. `splitLines_render` gives back the lines of such a document, and
`scanHunkHeader?_header` and `Extent.read_span` the numbers of a chunk.
-/

namespace ChangeFeed.Diff

open Text

namespace Extent

/-- The side as digits. -/
def span (e : Extent) : Span where
  start := ofNat e.start
  count := if e.brief && e.count == 1 then none else some (ofNat e.count)

theorem render_span (e : Extent) : e.span.render = e.render := by
  unfold render span Span.render
  split <;> simp_all

theorem isNumeric_span (e : Extent) : e.span.IsNumeric := by
  refine ⟨isDigits_ofNat _, fun ds hds => ?_⟩
  unfold span at hds
  split at hds <;> cases hds
  exact isDigits_ofNat _

theorem newline_not_mem_render (e : Extent) : '\n' ∉ e.render := by
  unfold render
  split <;> simp [newline_not_mem_ofNat]

/-- Both numbers of a side are short enough to be read. -/
@[mk_iff]
structure WellFormed (e : Extent) : Prop where
  start : (ofNat e.start).length ≤ Numeral.maxDigits
  count : (ofNat e.count).length ≤ Numeral.maxDigits

instance (e : Extent) : Decidable e.WellFormed := decidable_of_iff' _ e.wellFormed_iff

theorem read_span {e : Extent} (h : e.WellFormed) :
    e.span.read = .ok ((e.start : Int), (e.count : Int)) := by
  unfold span Span.read
  rw [Numeral.ofDecimals?_ofNat h.start]
  by_cases hb : (e.brief && e.count == 1) = true
  · have hc : e.count = 1 := by simp_all
    rw [if_pos hb, hc]
    rfl
  · rw [if_neg hb]
    simp only [Numeral.ofDecimals?_ofNat h.count]
    rfl

end Extent

namespace BodyLine

/-- The text of the line. -/
def text : BodyLine → Text
  | kept t | added t | removed t => t

theorem newline_not_mem_render {l : BodyLine} (h : '\n' ∉ l.text) : '\n' ∉ l.render := by
  cases l <;> simpa [render, text] using h

end BodyLine

namespace Chunk

/-- The numbers in the header can be read, and each text is on one line. -/
@[mk_iff]
structure WellFormed (c : Chunk) : Prop where
  old : c.old.WellFormed
  new : c.new.WellFormed
  heading : '\n' ∉ c.heading
  body : ∀ l ∈ c.body, '\n' ∉ l.text

instance (c : Chunk) : Decidable c.WellFormed := decidable_of_iff' _ c.wellFormed_iff

theorem header_eq (c : Chunk) :
    c.header = "@@ -" ++ c.old.render ++ " +" ++ c.new.render ++ " @@" ++ c.heading := rfl

theorem scanHunkHeader?_header (c : Chunk) :
    scanHunkHeader? (dropReturn c.header) = some (c.old.span, c.new.span) := by
  have hl : ("@@ -" ++ c.old.render ++ " +" ++ c.new.render ++ " @@" : Text).getLast? ≠
      some '\r' := by
    rw [List.getLast?_append]
    simp
  rw [header_eq, dropReturn_append hl]
  exact scanHunkHeader?_eq_some_iff.2 ⟨c.old.isNumeric_span, c.new.isNumeric_span,
    dropReturn c.heading, by rw [Extent.render_span, Extent.render_span]⟩

theorem newline_not_mem_lines {c : Chunk} (h : c.WellFormed) : ∀ line ∈ c.lines, '\n' ∉ line := by
  intro line hl
  rcases List.mem_cons.1 hl with rfl | hl
  · simp [header_eq, Extent.newline_not_mem_render, h.heading]
  · obtain ⟨l, hb, rfl⟩ := List.mem_map.1 hl
    exact BodyLine.newline_not_mem_render (h.body l hb)

end Chunk

namespace Section

/-- The paths are there and each on one line, the lines about the file are no headers, and the
chunks are well-formed. -/
@[mk_iff]
structure WellFormed (s : Section) : Prop where
  oldPath : s.oldPath ≠ [] ∧ '\n' ∉ s.oldPath
  newPath : s.newPath ≠ [] ∧ '\n' ∉ s.newPath
  about : ∀ line ∈ s.about,
    '\n' ∉ line ∧ scanFileHeader? line = none ∧ scanHunkHeader? line = none
  chunks : ∀ c ∈ s.chunks, c.WellFormed

instance (s : Section) : Decidable s.WellFormed := decidable_of_iff' _ s.wellFormed_iff

theorem header_eq (s : Section) :
    s.header = "diff --git a/" ++ s.oldPath ++ " b/" ++ s.newPath := rfl

theorem newline_not_mem_lines {s : Section} (h : s.WellFormed) : ∀ line ∈ s.lines, '\n' ∉ line := by
  intro line hl
  simp only [lines, List.cons_append, List.mem_cons, List.mem_append, List.mem_flatMap] at hl
  rcases hl with rfl | hl | ⟨c, hc, hl⟩
  · simp [header_eq, h.oldPath.2, h.newPath.2]
  · exact (h.about line hl).1
  · exact Chunk.newline_not_mem_lines (h.chunks c hc) line hl

/-- Both paths of a section are ones that its header can show. -/
def IsPlain (s : Section) : Prop := IsPlainPath s.oldPath ∧ IsPlainPath s.newPath

instance (s : Section) : Decidable s.IsPlain := inferInstanceAs (Decidable (_ ∧ _))

theorem scanFileHeader?_header {s : Section} (h : s.IsPlain) :
    scanFileHeader? (dropReturn s.header) = some s.oldPath := by
  obtain ⟨ho, hn⟩ := h
  have hl : s.header.getLast? ≠ some '\r' := by
    rw [header_eq, List.getLast?_append, List.getLast?_eq_some_getLast hn.1]
    intro hr
    have hmem := List.getLast_mem hn.1
    rw [Option.some_or, Option.some.injEq] at hr
    exact absurd (hn.2 _ (hr ▸ hmem)) (by decide)
  rw [dropReturn_of_getLast? hl]
  refine scanFileHeader?_eq_some_iff.2 ⟨ho, ?_⟩
  cases hp : s.newPath with
  | nil => exact absurd hp hn.1
  | cons c rest => exact ⟨c, rest, hn.2 c (by simp [hp]), by rw [header_eq, hp]⟩

end Section

namespace Document

/-- No line in front of the first section is the header of a file, and the sections are
well-formed. -/
@[mk_iff]
structure WellFormed (d : Document) : Prop where
  preamble : ∀ line ∈ d.preamble, '\n' ∉ line ∧ scanFileHeader? line = none
  sections : ∀ s ∈ d.sections, s.WellFormed

instance (d : Document) : Decidable d.WellFormed := decidable_of_iff' _ d.wellFormed_iff

theorem splitLines_render {d : Document} (h : d.WellFormed) :
    splitLines d.render = d.lines ++ [[]] := by
  refine splitLines_ofLines fun line hl => ?_
  rcases List.mem_append.1 hl with hl | hl
  · exact (h.preamble line hl).1
  · obtain ⟨s, hs, hl⟩ := List.mem_flatMap.1 hl
    exact Section.newline_not_mem_lines (h.sections s hs) line hl

end Document

end ChangeFeed.Diff
