import ChangeFeed.Proofs.Diff.RoundTrip
import ChangeFeed.Reference.Scanner

/-!
# The references of a document

A scan of the hunks that are read from a document finds the references in its added lines, in order
and each under the path of its section (`scan_parse_render`). A text that starts with `++` gives
none: behind the mark of an added line it looks like a line about the file. Besides, the number of a
line is the one that a session gives it, so it is left out of what is compared.
-/

namespace ChangeFeed

open Text

/-- A reference without the number of its line. -/
structure Sighting where
  name : Value
  kind : ReferenceKind
  file : Value
  text : Value
  deriving DecidableEq, Repr

/-- What a reference says apart from the number of its line. -/
def Reference.sighting (r : Reference) : Sighting := ⟨r.name, r.kind, r.file, r.text⟩

/-- What is found in a text that is added to a file. -/
def Scanner.sightings (s : Scanner) (path t : Text) : List Sighting :=
  (s.scanLine t).map fun r => ⟨.text r.1, r.2, .text path, .text t⟩

namespace Diff

namespace BodyLine

/-- The text of an added line. -/
def addedText? : BodyLine → Option Text
  | added t => some t
  | _ => none

theorem map_text_addedFrom (num : Int) (body : List BodyLine) :
    (addedFrom num body).map Line.text = body.filterMap addedText? := by
  induction body generalizing num with
  | nil => rfl
  | cons l body ih =>
    cases l with
    | added t => exact congrArg (t :: ·) (ih (num + 1))
    | kept _ => exact ih (num + 1)
    | removed _ => exact ih num

theorem addedText?_seen? {l : BodyLine} (h : ∀ t ∈ l.addedText?, t.getLast? ≠ some '\r') :
    l.seen?.bind addedText? = l.addedText?.filter fun t => !startsWith "++" t := by
  cases l with
  | kept t => rfl
  | added t =>
    rw [seen?, dropReturn_of_getLast? (h t rfl), addedText?, Option.filter]
    cases startsWith "++" t <;> rfl
  | removed t =>
    rw [seen?]
    split <;> rfl

end BodyLine

/-- The texts that a chunk adds, in order. -/
def Chunk.addedTexts (c : Chunk) : List Text := c.body.filterMap BodyLine.addedText?

/-- The texts that a document adds, in order and each with the path of its section. -/
def Document.addedTexts (d : Document) : List (Text × Text) :=
  d.sections.flatMap fun s => s.chunks.flatMap fun c => c.addedTexts.map (s.oldPath, ·)

theorem Chunk.addedTexts_seen {c : Chunk} (h : ∀ t ∈ c.addedTexts, t.getLast? ≠ some '\r') :
    c.seen.addedTexts = c.addedTexts.filter fun t => !startsWith "++" t := by
  rw [addedTexts, seen, List.filterMap_filterMap, addedTexts, List.filter_filterMap]
  exact List.filterMap_congr fun l hl => BodyLine.addedText?_seen? fun t ht =>
    h t (List.mem_filterMap.2 ⟨l, hl, ht⟩)

end Diff

namespace Scanner

open Diff

theorem map_sighting_scanHunk (s : Scanner) (path : Text) (c : Chunk) :
    (s.scanHunk (c.hunk path)).map Reference.sighting =
      c.addedTexts.flatMap (s.sightings path) := by
  have ha : ∀ l : Line, (s.scanAdded (.text path) l).map Reference.sighting =
      s.sightings path l.text := fun l => by
    rw [scanAdded, List.map_map]
    rfl
  rw [scanHunk, List.map_flatMap, Chunk.addedTexts,
    ← BodyLine.map_text_addedFrom c.new.last, List.flatMap_map]
  exact List.flatMap_congr fun l _ => ha l

/-- The references that are found in a document are those in its added lines, each with the path of
its section and the text of its line. Those in texts that start with two plus signs are missing, and
nothing else is. -/
theorem scan_parse_render {d : Document} (hd : d.WellFormed) (hp : ∀ s ∈ d.sections, s.IsPlain)
    (hr : ∀ a ∈ d.addedTexts, a.2.getLast? ≠ some '\r') (s : Scanner) :
    ∃ hs, parse d.render = .ok hs ∧ (s.scan hs).map Reference.sighting =
      (d.addedTexts.filter fun a => !startsWith "++" a.2).flatMap fun a => s.sightings a.1 a.2 := by
  refine ⟨_, parse_render_seen hd hp, ?_⟩
  have hc : ∀ sec ∈ d.sections, ∀ c ∈ sec.chunks,
      (s.scanHunk (c.seen.hunk sec.oldPath)).map Reference.sighting =
        (c.addedTexts.filter fun t => !startsWith "++" t).flatMap (s.sightings sec.oldPath) := by
    intro sec hsec c hc
    rw [map_sighting_scanHunk, Chunk.addedTexts_seen fun t ht => ?_]
    exact hr (sec.oldPath, t) (List.mem_flatMap.2 ⟨sec, hsec, List.mem_flatMap.2 ⟨c, hc,
      List.mem_map_of_mem ht⟩⟩)
  simp only [scan, Document.hunks, Document.seen, Section.hunks, Section.seen, Document.addedTexts,
    List.map_flatMap, List.flatMap_map, List.flatMap_assoc, List.filter_flatMap, List.filter_map,
    List.map_map, Function.comp_def]
  exact List.flatMap_congr fun sec hsec => List.flatMap_congr fun c hch => hc sec hsec c hch

/-- A diff that adds a text with two plus signs in front. -/
def stepped : Document where
  sections := [
    { oldPath := "a.go", newPath := "a.go"
      chunks := [
        { old := ⟨1, 1, true⟩, new := ⟨1, 2, false⟩
          body := [.removed "x", .added "load(i)", .added "++i; save()"] }] },
    { oldPath := "lib/b.go", newPath := "b.go", about := ["--- a/lib/b.go", "+++ b/b.go"]
      chunks := [
        { old := ⟨0, 0, false⟩, new := ⟨1, 1, true⟩
          body := [.added "@@ -1 +1 @@ <Panel>{run(1)}"] }] }]

theorem stepped_wellFormed : stepped.WellFormed ∧ ∀ s ∈ stepped.sections, s.IsPlain := by decide

theorem scan_parse_stepped :
    stepped.WellFormed ∧ (∀ s ∈ stepped.sections, s.IsPlain) ∧
      (∀ a ∈ stepped.addedTexts, a.2.getLast? ≠ some '\r') ∧
      ∃ hs, parse stepped.render = .ok hs ∧ (default.scan hs).map Reference.sighting = [
        ⟨.text "load", .call, .text "a.go", .text "load(i)"⟩,
        ⟨.text "run", .call, .text "lib/b.go", .text "@@ -1 +1 @@ <Panel>{run(1)}"⟩,
        ⟨.text "Panel", .markup, .text "lib/b.go", .text "@@ -1 +1 @@ <Panel>{run(1)}"⟩] := by
  obtain ⟨hd, hp⟩ := stepped_wellFormed
  have hr : ∀ a ∈ stepped.addedTexts, a.2.getLast? ≠ some '\r' := by decide
  obtain ⟨hs, hh, hm⟩ := scan_parse_render hd hp hr default
  exact ⟨hd, hp, hr, hs, hh, hm.trans (by decide +kernel)⟩

/-- The headers of `stepped` count the lines, and no added text has a break in it; still the call
of `save` is not found. -/
theorem scan_parse_stepped_ne :
    stepped.WellFormed ∧ (∀ s ∈ stepped.sections, s.IsPlain) ∧
      (∀ s ∈ stepped.sections, ∀ c ∈ s.chunks, c.counted) ∧
      (∀ a ∈ stepped.addedTexts, '\n' ∉ a.2 ∧ '\r' ∉ a.2) ∧
      ∃ hs, parse stepped.render = .ok hs ∧ (default.scan hs).map Reference.sighting ≠
        stepped.addedTexts.flatMap fun a => default.sightings a.1 a.2 := by
  obtain ⟨hd, hp⟩ := stepped_wellFormed
  exact ⟨hd, hp, by decide, by decide, _, parse_render_seen hd hp, by decide +kernel⟩

end Scanner

end ChangeFeed
