import ChangeFeed.Proofs.Diff.Files
import ChangeFeed.Proofs.Symbol.Changed

/-!
# No changed definition is missed

From the text of a diff to the changed tags: where the headers count the lines of the bodies, every
added line stands in the new span of its chunk (`Chunk.num_of_mem_additions`), so the tag that
governs it is among the changed ones (`mem_changed_of_governs`). The numbers are the true ones of
the new version, and not those that a session gives to the added lines.
-/

namespace ChangeFeed

namespace Diff

namespace BodyLine

theorem mem_addedFrom_cons {num : Int} {b : BodyLine} {body : List BodyLine} {l : Line} :
    l ∈ addedFrom num (b :: body) ↔
      b = .added l.text ∧ l.num = num ∨ l ∈ addedFrom (num + if b.isNew then 1 else 0) body := by
  obtain ⟨n, t⟩ := l
  cases b with
  | kept => simp [addedFrom, isNew]
  | added => simp [addedFrom, isNew, and_comm, eq_comm]
  | removed => simp [addedFrom, isNew]

theorem countP_isNew_cons (b : BodyLine) (body : List BodyLine) :
    ((b :: body).countP isNew : Int) = (if b.isNew then 1 else 0) + body.countP isNew := by
  cases b <;> simp [List.countP_cons, isNew, Int.add_comm]

/-- The number of an added line is that of the first new line and one for each line of the new
version in front of it. -/
theorem mem_addedFrom_iff {num : Int} {body : List BodyLine} {l : Line} :
    l ∈ addedFrom num body ↔ ∃ front back, body = front ++ .added l.text :: back ∧
      l.num = num + front.countP isNew := by
  induction body generalizing num with
  | nil => simp [addedFrom]
  | cons b body ih =>
    rw [mem_addedFrom_cons, ih]
    constructor
    · rintro (⟨rfl, hn⟩ | ⟨front, back, rfl, hn⟩)
      · exact ⟨[], body, rfl, by simpa using hn⟩
      · exact ⟨b :: front, back, rfl, by rw [countP_isNew_cons, hn, Int.add_assoc]⟩
    · rintro ⟨_ | ⟨b', front⟩, back, he, hn⟩
      · cases he
        exact .inl ⟨rfl, by simpa using hn⟩
      · cases he
        exact .inr ⟨front, back, rfl, by rw [hn, countP_isNew_cons, Int.add_assoc]⟩

end BodyLine

theorem Chunk.num_of_mem_additions {c : Chunk} (hc : c.counted) {l : Line}
    (hl : l ∈ c.additions) : c.new.start ≤ l.num ∧ l.num ≤ c.new.last := by
  obtain ⟨front, back, hb, hn⟩ := BodyLine.mem_addedFrom_iff.1 hl
  have hcount : c.new.count = front.countP BodyLine.isNew + (back.countP BodyLine.isNew + 1) := by
    rw [counted, Bool.and_eq_true, beq_iff_eq, beq_iff_eq] at hc
    rw [hc.2, hb, List.countP_append, List.countP_cons_of_pos rfl]
  rw [Extent.last]
  omega

end Diff

theorem Tag.Governs.touches {tags : List Tag} {t : Tag} {n : Int} {h : Hunk}
    (hg : t.Governs tags n) (hs : h.newStart ≤ n) (he : n ≤ h.newEnd) : h.Touches tags t :=
  (Hunk.touches_iff_governs (by omega)).2 ⟨n, hs, he, hg⟩

namespace SymbolIndex
open Diff

/-- The tags that govern an added line of their file are changed, whatever the texts of the lines
are. -/
theorem mem_changed_of_governs {d : Document} {tags : List Tag} (hd : d.WellFormed)
    (hp : ∀ s ∈ d.sections, s.oldPath = s.newPath ∧ IsPlainPath s.oldPath)
    (hc : ∀ s ∈ d.sections, ∀ c ∈ s.chunks, c.counted) (ht : ∀ t ∈ tags, t.file.isKey) :
    ∃ hs changed, parse d.render = .ok hs ∧ ofTags tags >>= (·.correlate hs) = .ok changed ∧
      ∀ s ∈ d.sections, ∀ c ∈ s.chunks, ∀ l ∈ c.additions, ∀ t ∈ tags,
        t.file = .text s.oldPath → t.Governs tags l.num → t ∈ changed := by
  have hplain : ∀ s ∈ d.sections, s.IsPlain := fun s hsec =>
    ⟨(hp s hsec).2, (hp s hsec).1 ▸ (hp s hsec).2⟩
  obtain ⟨hs, hr, ho⟩ := parse_render_outlines hd fun s hsec _ => hplain s hsec
  have hk : ∀ h ∈ hs, h.filename.isKey := fun h hh => by
    obtain ⟨path, hf, -⟩ := (isRead_of_parse hr h hh).filename
    rw [hf]
    rfl
  refine ⟨hs, _, hr, ofTags_correlate ht hk, fun s hsec c hch l hl t hm hf hg => ?_⟩
  obtain ⟨h, hh, he⟩ := exists_of_outlines ho hsec hch
  have hfile : h.filename = .text s.oldPath := congrArg Hunk.filename he
  have hstart : h.newStart = c.new.start := congrArg Hunk.newStart he
  have hend : h.newEnd = c.new.last := congrArg Hunk.newEnd he
  obtain ⟨hls, hle⟩ := Chunk.num_of_mem_additions (hc s hsec c hch) hl
  rw [List.mem_filter, decide_eq_true_eq]
  refine ⟨(stableOrder_sortByLine tags).mem_iff.2 hm, h, hh, ?_, hg.touches ?_ ?_⟩
  · rw [hf, hfile, Value.sameKey_text, beq_self_eq_true]
  · rw [hstart]
    exact hls
  · rw [hend]
    exact hle

/-- A diff with lines that look like those in front of a hunk. -/
def misleading : Document where
  sections := [
    { oldPath := "a.go", newPath := "a.go"
      about := ["--- a/a.go", "+++ b/a.go"]
      chunks := [
        { old := ⟨2, 2, false⟩, new := ⟨2, 2, false⟩
          body := [.removed "-- a/b.go", .added "++ b/b.go", .kept "diff --git a/b.go b/b.go"] },
        { old := ⟨30, 1, true⟩, new := ⟨30, 2, false⟩
          body := [.kept "@@ -1 +1 @@", .added "++i"] }] }]

/-- A function that starts in front of the second chunk. -/
def enclosing : Tag where
  file := .text "a.go"
  name := .text "Run"
  line := 25

theorem mem_changed_misleading :
    misleading.WellFormed ∧
    (∀ s ∈ misleading.sections, s.oldPath = s.newPath ∧ IsPlainPath s.oldPath) ∧
    (∀ s ∈ misleading.sections, ∀ c ∈ s.chunks, c.counted) ∧
    (∀ t ∈ enclosing :: interleaved, t.file.isKey) ∧
    ∃ hs changed, parse misleading.render = .ok hs ∧
      ofTags (enclosing :: interleaved) >>= (·.correlate hs) = .ok changed ∧
      enclosing ∈ changed := by
  have hd : misleading.WellFormed := by decide
  have hp : ∀ s ∈ misleading.sections, s.oldPath = s.newPath ∧ IsPlainPath s.oldPath := by
    decide
  have hc : ∀ s ∈ misleading.sections, ∀ c ∈ s.chunks, c.counted := by decide
  have ht : ∀ t ∈ enclosing :: interleaved, t.file.isKey := by decide
  obtain ⟨hs, changed, hr, hch, hm⟩ := mem_changed_of_governs hd hp hc ht
  -- the second line of the second chunk is line 31 of the new version
  exact ⟨hd, hp, hc, ht, hs, changed, hr, hch, hm misleading.sections[0] (by simp [misleading])
    misleading.sections[0].chunks[1] (by simp [misleading]) ⟨31, "++i"⟩ (by decide) enclosing
    (by simp) rfl ⟨by decide, by decide⟩⟩

end SymbolIndex

end ChangeFeed
