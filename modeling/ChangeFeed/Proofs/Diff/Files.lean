import ChangeFeed.Proofs.Diff.RoundTrip

/-!
# The files under which hunks are read

A file header whose path has a blank in it is not understood: the line is passed over, and the hunks
that follow go to the file before, or nowhere. So a document is read with each hunk in its place
exactly if no section with hunks has such a path (`parse_render_outlines_iff`). That holds whatever
the texts in the bodies are. Every document is read without a problem (`exists_parse_render`).
-/

namespace ChangeFeed.Diff

open Text

theorem Section.outlines_seen (s : Section) :
    s.seen.hunks.map Hunk.outline = s.hunks.map Hunk.outline := by
  simp [hunks, seen, Function.comp_def, Hunk.outline, Chunk.hunk, Chunk.seen]

namespace BodyLine

theorem scanHunkHeader?_render (l : BodyLine) : scanHunkHeader? l.render = none :=
  scanHunkHeader?_of_head?_ne (by cases l <;> simp [render])

end BodyLine

theorem Section.scanHunkHeader?_header (s : Section) : scanHunkHeader? s.header = none :=
  scanHunkHeader?_of_head?_ne (by simp [header_eq])

namespace Session

theorem exists_feed {sec : Section} (hw : sec.WellFormed) :
    ∀ line ∈ sec.lines, ∀ s : Session, ∃ s', s.feed line = .ok s' := by
  intro line hl s
  refine feed_isOk fun old new hh => ?_
  have hn : ∀ {l : Text}, scanHunkHeader? l = none → line = l → False := by
    rintro l hl rfl
    rw [scanHunkHeader?_dropReturn hl] at hh
    cases hh
  simp only [Section.lines, List.cons_append, List.mem_cons, List.mem_append,
    List.mem_flatMap] at hl
  rcases hl with hl | hl | ⟨c, hc, hl⟩
  · exact absurd hl (hn sec.scanHunkHeader?_header)
  · exact absurd rfl (hn (hw.about line hl).2.2)
  rcases List.mem_cons.1 hl with rfl | hl
  · rw [c.scanHunkHeader?_header] at hh
    cases hh
    exact ⟨⟨_, Extent.read_span (hw.chunks c hc).old⟩, _, Extent.read_span (hw.chunks c hc).new⟩
  · obtain ⟨l, -, rfl⟩ := List.mem_map.1 hl
    exact absurd rfl (hn l.scanHunkHeader?_render)

/-- A section adds the outlines of its hunks, if it has none or its paths are plain. -/
theorem reads_section_outlines {sec : Section} (hw : sec.WellFormed)
    (hp : sec.chunks ≠ [] → sec.IsPlain) (s : Session) :
    ∃ s', s.Reads sec.lines s' ∧ s'.outlines = s.outlines ++ sec.hunks.map Hunk.outline := by
  by_cases hc : sec.chunks = []
  · have hn : ∀ line ∈ sec.header :: sec.about, scanHunkHeader? line = none := fun line hl => by
      rcases List.mem_cons.1 hl with rfl | hl
      · exact sec.scanHunkHeader?_header
      · exact (hw.about line hl).2.2
    obtain ⟨s', hr, ho⟩ := reads_of_not_hunkHeader (s := s) hn
    refine ⟨s', ?_, ?_⟩
    · simpa [Section.lines, hc] using hr
    · simp [ho, Section.hunks, hc]
  · obtain ⟨s', hr, hs⟩ := reads_section hw (hp hc) s
    exact ⟨s', hr, by rw [outlines, hs, List.map_append, sec.outlines_seen, outlines]⟩

end Session

theorem exists_parse_render {d : Document} (hd : d.WellFormed) :
    ∃ hs, parse d.render = .ok hs := by
  have hs : ∃ s, Session.Reads {} (d.sections.flatMap Section.lines) s :=
    Session.reads_of_feed fun line hl => by
      obtain ⟨sec, hsec, hl⟩ := List.mem_flatMap.1 hl
      exact Session.exists_feed (hd.sections sec hsec) line hl
  obtain ⟨s, hs⟩ := hs
  exact ⟨s.hunks, parse_render_of_reads hd hs⟩

/-- Each hunk is read with its file and its spans, if the sections with hunks have plain paths. -/
theorem parse_render_outlines {d : Document} (hd : d.WellFormed)
    (hp : ∀ s ∈ d.sections, s.chunks ≠ [] → s.IsPlain) :
    ∃ hs, parse d.render = .ok hs ∧ hs.map Hunk.outline = d.hunks.map Hunk.outline :=
  parse_render_map hd Hunk.outline Section.hunks fun sec hsec =>
    Session.reads_section_outlines (hd.sections sec hsec) (hp sec hsec)

theorem exists_of_outlines {d : Document} {hs : List Hunk}
    (ho : hs.map Hunk.outline = d.hunks.map Hunk.outline) {s : Section} (hsec : s ∈ d.sections)
    {c : Chunk} (hc : c ∈ s.chunks) : ∃ h ∈ hs, h.outline = (c.hunk s.oldPath).outline := by
  have hm : (c.hunk s.oldPath).outline ∈ hs.map Hunk.outline := by
    rw [ho]
    exact List.mem_map_of_mem (List.mem_flatMap.2 ⟨s, hsec, List.mem_map_of_mem hc⟩)
  obtain ⟨h, hh, he⟩ := List.mem_map.1 hm
  exact ⟨h, hh, he⟩

/-- A document is always read. The hunks that are read are those of the document, each under the
path of its section, exactly if no path of a section with hunks has a blank in it; under a path with
a blank there is never any hunk. -/
theorem parse_render_outlines_iff {d : Document} (hd : d.WellFormed)
    (hp : ∀ s ∈ d.sections, s.oldPath = s.newPath) :
    ∃ hs, parse d.render = .ok hs ∧
      (hs.map Hunk.outline = d.hunks.map Hunk.outline ↔
        ∀ s ∈ d.sections, s.chunks ≠ [] → ∀ c ∈ s.oldPath, isBlank c = false) ∧
      ∀ s ∈ d.sections, (∃ c ∈ s.oldPath, isBlank c = true) →
        ∀ h ∈ hs, h.filename ≠ .text s.oldPath := by
  obtain ⟨hs, hr⟩ := exists_parse_render hd
  have hf := fun h hh => (isRead_of_parse hr h hh).filename
  refine ⟨hs, hr, ⟨fun ho s hsec hc => ?_, fun hb => ?_⟩, fun s hsec hb h hh hn => ?_⟩
  · obtain ⟨c, hc⟩ := List.exists_mem_of_ne_nil _ hc
    obtain ⟨h, hh, he⟩ := exists_of_outlines ho hsec hc
    obtain ⟨path, hpath, hplain⟩ := hf h hh
    have hn : h.filename = .text s.oldPath := congrArg Hunk.filename he
    rw [hpath] at hn
    cases hn
    exact hplain.2
  · have hplain : ∀ s ∈ d.sections, s.chunks ≠ [] → s.IsPlain := fun s hsec hc => by
      have h : IsPlainPath s.oldPath := ⟨(hd.sections s hsec).oldPath.1, hb s hsec hc⟩
      exact ⟨h, hp s hsec ▸ h⟩
    obtain ⟨hs', hr', ho⟩ := parse_render_outlines hd hplain
    rw [hr] at hr'
    cases hr'
    exact ho
  · obtain ⟨path, hpath, hplain⟩ := hf h hh
    obtain ⟨c, hc, hb⟩ := hb
    rw [hpath] at hn
    cases hn
    rw [hplain.2 c hc] at hb
    cases hb

/-- A diff of two files, of which the second one has a blank in its path. -/
def blankPath : Document where
  sections := [
    { oldPath := "a.go", newPath := "a.go"
      chunks := [
        { old := ⟨1, 1, true⟩, new := ⟨1, 1, true⟩, body := [.removed "x", .added "y"] }] },
    { oldPath := "my file.go", newPath := "my file.go"
      chunks := [
        { old := ⟨7, 1, true⟩, new := ⟨7, 1, true⟩, body := [.removed "u", .added "v"] }] }]

theorem parse_render_blankPath :
    blankPath.WellFormed ∧ (∀ s ∈ blankPath.sections, s.oldPath = s.newPath) ∧
      ∃ hs, parse blankPath.render = .ok hs ∧
        hs.map Hunk.outline ≠ blankPath.hunks.map Hunk.outline ∧
        ∀ h ∈ hs, h.filename ≠ .text "my file.go" := by
  have hw : blankPath.WellFormed := by decide
  have hp : ∀ s ∈ blankPath.sections, s.oldPath = s.newPath := by decide
  obtain ⟨hs, hr, hi, hn⟩ := parse_render_outlines_iff hw hp
  have hm : blankPath.sections[1] ∈ blankPath.sections := by simp [blankPath]
  have hb : ' ' ∈ blankPath.sections[1].oldPath := by decide
  refine ⟨hw, hp, hs, hr, fun ho => ?_, hn _ hm ⟨' ', hb, rfl⟩⟩
  exact Bool.noConfusion (hi.1 ho _ hm (by decide) ' ' hb)

/-- The second hunk of `blankPath` is read as one of the first file. -/
example : (parse blankPath.render).map (List.map Hunk.filename) =
    .ok [.text "a.go", .text "a.go"] := by decide +kernel

end ChangeFeed.Diff
