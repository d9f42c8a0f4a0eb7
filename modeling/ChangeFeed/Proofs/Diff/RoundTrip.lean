import ChangeFeed.Proofs.Diff.Reading
import ChangeFeed.Proofs.Diff.WellFormed
import Mathlib.Data.List.Basic

/-!
# Reading gives back what rendering wrote

A line of the body that looks like a line about the file, `+++...` or `---...`, is passed over, and
a carriage return at the end of an added or removed text is lost. What is left of a document is its
`seen` part. `parse_render_seen`: reading a well-formed document with plain paths gives exactly the
hunks of the seen part. Of a document with plain bodies everything is seen (`parse_render`).

The induction goes over sections, chunks and body lines by `Session.reads_flatMap`. The invariant is
that a session in the section of a file stays there and that reading appends hunks.
-/

namespace ChangeFeed.Diff

open Text

/-! ### What is seen of a document -/

namespace BodyLine

/-- What a reader makes of a line: nothing of one that looks like a line about the file. -/
def seen? : BodyLine → Option BodyLine
  | kept t => some (kept t)
  | added t => if startsWith "++" t then none else some (added (dropReturn t))
  | removed t => if startsWith "--" t then none else some (removed (dropReturn t))

/-- Whether a reader sees the line as it is. -/
def IsPlain : BodyLine → Prop
  | kept _ => True
  | added t => startsWith "++" t = false ∧ t.getLast? ≠ some '\r'
  | removed t => startsWith "--" t = false ∧ t.getLast? ≠ some '\r'

instance : DecidablePred IsPlain
  | kept _ => .isTrue trivial
  | added _ | removed _ => inferInstanceAs (Decidable (_ ∧ _))

theorem seen?_of_isPlain {l : BodyLine} (h : l.IsPlain) : l.seen? = some l := by
  cases l with
  | kept t => rfl
  | added t => rw [seen?, h.1, dropReturn_of_getLast? h.2]; rfl
  | removed t => rw [seen?, h.1, dropReturn_of_getLast? h.2]; rfl

/-- The place after a line of a body. -/
def advance : BodyLine → Place → Place
  | kept _ => Session.content .context
  | added t => Session.content (.added t)
  | removed t => Session.content (.removed t)

end BodyLine

/-- The chunk with the part of its body that a reader sees. -/
def Chunk.seen (c : Chunk) : Chunk := { c with body := c.body.filterMap BodyLine.seen? }

/-- The section with the part of its chunks that a reader sees. -/
def Section.seen (s : Section) : Section := { s with chunks := s.chunks.map Chunk.seen }

/-- The document with the part of its sections that a reader sees. -/
def Document.seen (d : Document) : Document := { d with sections := d.sections.map Section.seen }

/-- Whether a reader sees all bodies as they are. -/
def Document.IsPlain (d : Document) : Prop :=
  ∀ s ∈ d.sections, ∀ c ∈ s.chunks, ∀ l ∈ c.body, l.IsPlain

instance (d : Document) : Decidable d.IsPlain := inferInstanceAs (Decidable (∀ s ∈ _, _))

theorem Document.seen_of_isPlain {d : Document} (h : d.IsPlain) : d.seen = d := by
  have hc : ∀ s ∈ d.sections, ∀ c ∈ s.chunks, c.seen = c := fun s hs c hc => by
    rw [Chunk.seen, List.filterMap_congr fun l hl => BodyLine.seen?_of_isPlain (h s hs c hc l hl)]
    simp
  have hs : ∀ s ∈ d.sections, s.seen = s := fun s hs => by
    rw [Section.seen, List.map_congr_left (hc s hs)]
    simp
  rw [seen, List.map_congr_left hs]
  simp

namespace Session

variable {s s' : Session}

/-! ### Chunks -/

theorem feed_render (l : BodyLine) :
    s.feed l.render = .ok (match l.seen? with
      | some l => ⟨s.complete, l.advance s.place⟩
      | none => s) := by
  rw [feed]
  cases l with
  | kept t =>
    rw [BodyLine.render, dropReturn_cons (by decide), LineKind.of_blank]
    rfl
  | added t =>
    rw [BodyLine.render, dropReturn_cons (by decide), LineKind.of_plus,
      startsWith_dropReturn (by decide), BodyLine.seen?]
    split <;> rfl
  | removed t =>
    rw [BodyLine.render, dropReturn_cons (by decide), LineKind.of_minus,
      startsWith_dropReturn (by decide), BodyLine.seen?]
    split <;> rfl

/-- A body appends its lines to the open hunk, numbered from the numbers that are next. -/
theorem reads_body (body : List BodyLine) (complete : List Hunk) (h : Hunk) (old new : Int) :
    ∃ old' new', Reads ⟨complete, .hunk h old new⟩ (body.map BodyLine.render)
      ⟨complete, .hunk
        { h with
          oldLines := h.oldLines ++ BodyLine.removedFrom old (body.filterMap BodyLine.seen?)
          newLines := h.newLines ++ BodyLine.addedFrom new (body.filterMap BodyLine.seen?) }
        old' new'⟩ := by
  induction body generalizing h old new with
  | nil => exact ⟨old, new, by simpa [BodyLine.removedFrom, BodyLine.addedFrom] using Reads.nil⟩
  | cons l body ih =>
    have hf := feed_render (s := ⟨complete, .hunk h old new⟩) l
    cases hl : l.seen? with
    | none =>
      rw [hl] at hf
      obtain ⟨o, n, hr⟩ := ih h old new
      rw [List.filterMap_cons_none hl]
      exact ⟨o, n, hr.cons hf⟩
    | some l' =>
      rw [hl] at hf
      rw [List.filterMap_cons_some hl]
      cases l' with
      | kept t =>
        obtain ⟨o, n, hr⟩ := ih h (old + 1) (new + 1)
        exact ⟨o, n, hr.cons hf⟩
      | added t =>
        obtain ⟨o, n, hr⟩ := ih { h with newLines := h.newLines ++ [⟨new, t⟩] } old (new + 1)
        exact ⟨o, n, by simpa [BodyLine.removedFrom, BodyLine.addedFrom] using hr.cons hf⟩
      | removed t =>
        obtain ⟨o, n, hr⟩ := ih { h with oldLines := h.oldLines ++ [⟨old, t⟩] } (old + 1) new
        exact ⟨o, n, by simpa [BodyLine.removedFrom, BodyLine.addedFrom] using hr.cons hf⟩

theorem reads_chunk {c : Chunk} (hc : c.WellFormed) {path : Text}
    (hp : s.place.file? = some (.text path)) :
    ∃ s', s.Reads c.lines s' ∧ s'.place.file? = some (.text path) ∧
      s'.hunks = s.hunks ++ [c.seen.hunk path] := by
  have hh : s.feed c.header = .ok _ := (feed_hunkHeader c.scanHunkHeader?_header hp).trans
    (enterHunk_eq_ok_iff.2 ⟨_, _, _, _, Extent.read_span hc.old, Extent.read_span hc.new, rfl⟩)
  obtain ⟨old, new, hb⟩ := reads_body c.body s.hunks _ _ _
  exact ⟨_, .cons hh hb, rfl, rfl⟩

/-! ### Sections -/

theorem feed_of_file {path : Value} {line : Text} (hp : s.place = .file path)
    (hf : scanFileHeader? line = none) (hh : scanHunkHeader? line = none) :
    s.feed line = .ok s := by
  obtain ⟨complete, place⟩ := s
  subst hp
  rw [feed]
  cases hk : LineKind.of (dropReturn line) with
  | fileHeader path =>
    rw [LineKind.of_eq_fileHeader_iff, scanFileHeader?_dropReturn hf] at hk
    cases hk
  | hunkHeader old new =>
    rw [LineKind.of_eq_hunkHeader_iff, scanHunkHeader?_dropReturn hh] at hk
    cases hk
  | _ => rfl

theorem reads_of_feed_eq {lines : List Text} (h : ∀ line ∈ lines, s.feed line = .ok s) :
    s.Reads lines s := by
  induction lines with
  | nil => exact .nil
  | cons line lines ih => exact .cons (h line (by simp)) (ih fun l hl => h l (by simp [hl]))

/-- Whatever was read before, a section adds its seen part to the hunks. -/
theorem reads_section {sec : Section} (hw : sec.WellFormed) (hp : sec.IsPlain) (s : Session) :
    ∃ s', s.Reads sec.lines s' ∧ s'.hunks = s.hunks ++ sec.seen.hunks := by
  have hh : s.feed sec.header = .ok (s.enterFile sec.oldPath) :=
    feed_fileHeader (Section.scanFileHeader?_header hp)
  have ha : (s.enterFile sec.oldPath).Reads sec.about (s.enterFile sec.oldPath) :=
    reads_of_feed_eq fun line hl => feed_of_file rfl (hw.about line hl).2.1 (hw.about line hl).2.2
  obtain ⟨s', hr, -, hs⟩ := reads_flatMap (s := s.enterFile sec.oldPath)
    (P := fun s => s.place.file? = some (.text sec.oldPath))
    id (fun c : Chunk => [c.seen.hunk sec.oldPath])
    (fun c hc s hs => by simpa using reads_chunk (hw.chunks c hc) hs) rfl
  have hm : sec.seen.hunks = sec.chunks.flatMap fun c => [c.seen.hunk sec.oldPath] := by
    rw [Section.hunks, Section.seen, List.map_map, List.map_eq_flatMap]
    rfl
  refine ⟨s', (Reads.cons hh ha).append hr, ?_⟩
  rw [hm]
  simpa only [List.map_id, hunks_enterFile] using hs

/-! ### Documents -/

theorem feed_nil (s : Session) : ∃ s', s.feed [] = .ok s' ∧ s'.hunks = s.hunks := by
  refine ⟨⟨s.complete, content .context s.place⟩, rfl, ?_⟩
  obtain ⟨complete, place⟩ := s
  cases place <;> rfl

end Session

theorem parse_render_of_reads {d : Document} (hd : d.WellFormed) {s : Session}
    (h : Session.Reads {} (d.sections.flatMap Section.lines) s) :
    parse d.render = .ok s.hunks := by
  have hp : Session.Reads {} d.preamble {} := Session.reads_of_feed_eq fun line hl =>
    Session.feed_of_preamble rfl (hd.preamble line hl).2
  obtain ⟨s', h', hs'⟩ := s.feed_nil
  rw [← hs']
  apply Session.parse_of_reads
  rw [Document.splitLines_render hd]
  exact (hp.append h).append (.singleton h')

theorem parse_render_map {d : Document} (hd : d.WellFormed) {β : Type} (v : Hunk → β)
    (hunks : Section → List Hunk)
    (h : ∀ sec ∈ d.sections, ∀ s : Session,
      ∃ s', s.Reads sec.lines s' ∧ s'.hunks.map v = s.hunks.map v ++ (hunks sec).map v) :
    ∃ hs, parse d.render = .ok hs ∧ hs.map v = (d.sections.flatMap hunks).map v := by
  obtain ⟨s, hr, -, hs⟩ := Session.reads_flatMap (P := fun _ => True) (s := {}) v hunks
    (fun sec hsec s _ => by simpa using h sec hsec s) trivial
  exact ⟨s.hunks, parse_render_of_reads hd hr, hs⟩

theorem parse_render_seen {d : Document} (hd : d.WellFormed)
    (hp : ∀ s ∈ d.sections, s.IsPlain) : parse d.render = .ok d.seen.hunks := by
  obtain ⟨hs, hr, hm⟩ := parse_render_map hd id (fun s => s.seen.hunks)
    fun sec hsec s => by simpa using Session.reads_section (hd.sections sec hsec) (hp sec hsec) s
  rw [List.map_id, List.map_id] at hm
  rw [hr, hm, Document.seen, Document.hunks, List.flatMap_map]

/-- Reading undoes rendering: a well-formed document with plain paths and plain bodies is read as
the hunks that it shows. -/
theorem parse_render {d : Document} (hd : d.WellFormed) (hp : ∀ s ∈ d.sections, s.IsPlain)
    (hb : d.IsPlain) : parse d.render = .ok d.hunks := by
  rw [parse_render_seen hd hp, Document.seen_of_isPlain hb]

/-- A diff of a renamed file and of a new one. -/
def twoFiles : Document where
  preamble := ["commit 4b825dc", "", "    @@ -1 +1 @@"]
  sections := [
    { oldPath := "lib/a.go", newPath := "a.go"
      about := ["similarity index 90%", "--- a/lib/a.go", "+++ b/a.go"]
      chunks := [
        { old := ⟨10, 3, false⟩, new := ⟨10, 1, true⟩, heading := " func Foo()"
          body := [.removed "x", .kept "-- y", .removed "@@ -1 +1 @@"] },
        { old := ⟨20, 0, false⟩, new := ⟨18, 2, false⟩
          body := [.added "diff --git a/b b/b", .added "index 1"] }] },
    { oldPath := "b.go", newPath := "b.go", about := ["new file mode 100644"]
      chunks := [{ old := ⟨0, 0, false⟩, new := ⟨1, 1, false⟩, body := [.added "+"] }] }]

theorem parse_render_twoFiles :
    twoFiles.WellFormed ∧ (∀ s ∈ twoFiles.sections, s.IsPlain) ∧ twoFiles.IsPlain ∧
      parse twoFiles.render = .ok [
        ⟨.text "lib/a.go", 10, 12, 10, 10, [⟨10, "x"⟩, ⟨12, "@@ -1 +1 @@"⟩], []⟩,
        ⟨.text "lib/a.go", 20, 19, 18, 19, [], [⟨19, "diff --git a/b b/b"⟩, ⟨20, "index 1"⟩]⟩,
        ⟨.text "b.go", 0, -1, 1, 1, [], [⟨1, "+"⟩]⟩] := by
  have hw : twoFiles.WellFormed := by decide
  have hp : ∀ s ∈ twoFiles.sections, s.IsPlain := by decide
  have hb : twoFiles.IsPlain := by decide
  exact ⟨hw, hp, hb, (parse_render hw hp hb).trans (by decide)⟩

end ChangeFeed.Diff
