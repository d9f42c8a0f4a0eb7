import ChangeFeed.Proofs.Outcome
import ChangeFeed.Proofs.Report.Lines

/-!
# A batch as one document and as lines

A batch of texts is printed as one document or as a line for each event. Whatever the texts hold,
the document is read back as the batch, at every indentation that can be used
(`batch_eq_ok`), and the lines are found again between newlines and read back as the events of
that document.
-/

namespace ChangeFeed

namespace Json

/-- The indentations that can be used: none, or a number of spaces that a text can have. -/
def IsUsable (indent : Option Int) : Prop :=
  ∀ n ∈ indent, -0x8000000000000000 ≤ n ∧ n < 0x8000000000000000

theorem obstacle?_eq_none_iff (ascii : Bool) {indent : Option Int} :
    Style.obstacle? { ascii, indent := indent.map .spaces } = none ↔ IsUsable indent := by
  cases indent with
  | none =>
    constructor
    · intro _ n hn
      cases hn
    · intro _
      rfl
  | some n =>
    simp only [IsUsable, Option.mem_some_iff, forall_eq', Style.obstacle?, Option.map_some]
    by_cases hwide : n < -0x8000000000000000 ∨ 0x8000000000000000 ≤ n
    · rw [if_pos hwide]
      constructor
      · intro h
        cases h
      · omega
    · rw [if_neg hwide]
      constructor
      · omega
      · intro _
        rfl

end Json

namespace Report

variable {b : Batch} {es : List Event}

/-- The line of an event. -/
def eventText (e : Event) : Text := Json.shown {} (.table e.entries)

theorem line_event {e : Event} (h : e.IsText) :
    Json.line (.table e.entries) = .ok (CodePoints.ofText (eventText e)) :=
  Json.write_of_readable (h.readable 0) rfl

theorem isPlain_eventText {e : Event} (h : e.IsText) : Json.IsPlain (eventText e) :=
  Json.isPlain_valueText rfl (h.readable 0) 0

theorem read_eventText {e : Event} (h : e.IsText) {limit : Nat} (hlimit : 1 ≤ limit) :
    Json.read limit (eventText e) = .ok (.table e.entries) :=
  Json.read_shown (Json.Style.spaced_of_indent_eq_none rfl) ((h.readable 0).mono hlimit)

theorem lines_events (h : ∀ e ∈ es, e.IsText) :
    lines (es.map Event.entries) =
      .ok (CodePoints.ofText (Text.ofLines (es.map eventText))) := by
  have hline : ∀ row ∈ es.map Event.entries,
      line row = .ok (CodePoints.ofText (Json.shown {} (.table row) ++ ['\n'])) :=
    List.forall_mem_map.2 fun e he => line_eq_ok ((h e he).readable 0)
  rw [lines, mapM_eq_ok_map hline, List.map_map]
  refine congrArg Except.ok ?_
  induction es with
  | nil => rfl
  | cons e es ih =>
    rw [List.forall_mem_cons] at h
    rw [List.map_cons, List.flatten_cons, ih h.2 fun row hrow => hline row (.tail _ hrow),
      List.map_cons]
    exact (CodePoints.ofText_append ..).symm

theorem batch_of_not_isUsable {indent : Option Int} (hi : ¬Json.IsUsable indent) (b : Batch) :
    ∃ o, batch (indent.map .spaces) b = .error (.unwritable o) := by
  rw [← Json.obstacle?_eq_none_iff false] at hi
  obtain ⟨o, ho⟩ := Option.ne_none_iff_exists'.1 hi
  refine ⟨o, ?_⟩
  rw [batch, document, Json.write, ho]
  rfl

/-- The document of a batch and the lines of its events say the same, to a reader for which four
containers may be open: the document is read back as the batch, unless the indentation cannot be
used; the text of the lines, cut at newlines, is a line for each event, without control characters,
and all lines are read back as the events of the batch. -/
theorem document_and_lines {b : Batch} (he : ∀ e ∈ b.events, e.IsText)
    (hs : ∀ x ∈ b.subscriptions, x.IsText) (indent : Option Int) {limit : Nat}
    (hlimit : 4 ≤ limit) :
    (Json.IsUsable indent →
        ∃ text, batch (indent.map .spaces) b = .ok (CodePoints.ofText text) ∧
          Json.read limit text = .ok (.table b.entries)) ∧
      (¬Json.IsUsable indent → ∃ o, batch (indent.map .spaces) b = .error (.unwritable o)) ∧
      ∃ ls, lines (b.events.map Event.entries) = .ok (CodePoints.ofText (Text.ofLines ls)) ∧
        Text.splitLines (Text.ofLines ls) = ls ++ [[]] ∧
        b.events.mapM (fun e => Json.line (.table e.entries)) =
          .ok (ls.map CodePoints.ofText) ∧
        (∀ l ∈ ls, ∀ c ∈ l, 0x20 ≤ c.toNat) ∧
        ∃ vs, ls.mapM (Json.read limit) = .ok vs ∧
          Table.get? "events" b.entries = some (.list vs) := by
  refine ⟨fun hi => ?_, fun hi => batch_of_not_isUsable hi b, b.events.map eventText,
    lines_events he, ?_, ?_, ?_, b.events.map fun e => .table e.entries, ?_, rfl⟩
  · obtain ⟨document, hbatch, hread⟩ :=
      batch_eq_ok he hs ((Json.obstacle?_eq_none_iff false).2 hi)
    exact ⟨_, hbatch, hread limit hlimit⟩
  · refine Text.splitLines_ofLines (List.forall_mem_map.2 ?_)
    intro e hm
    exact (isPlain_eventText (he e hm)).newline_not_mem
  · rw [List.map_map]
    exact mapM_eq_ok_map fun e hm => line_event (he e hm)
  · refine List.forall_mem_map.2 ?_
    intro e hm
    exact isPlain_eventText (he e hm)
  · rw [List.mapM_map]
    exact mapM_eq_ok_map fun e hm => read_eventText (he e hm) (Nat.le_trans (by decide) hlimit)

/-- A batch with names that would break a line if they were not escaped. -/
def unusualBatch : Batch where
  events := [
    { id := .text "modified:a\nb:\x01.go:u", title := .text "Ada \"the\r\n\\\" changed a\nb",
      body := .text "\x7b\"events\": []\x7d\n\t\x1f😀\u2028", url := .text "u", type := .modified,
      time := { seconds := 0, first_le := by decide, le_last := by decide } },
    { id := .text "", title := .text "", body := .text "", url := .text "", type := .referenced,
      time := { seconds := 0, first_le := by decide, le_last := by decide } }]
  subscriptions := [⟨.text "Ada\n", [.text "a\nb", .text "\""]⟩]

theorem document_and_lines_unusual :
    (∃ text, batch (some (.spaces (-2))) unusualBatch = .ok (CodePoints.ofText text) ∧
        Json.read 4 text = .ok (.table unusualBatch.entries)) ∧
      ∃ ls, lines (unusualBatch.events.map Event.entries) =
          .ok (CodePoints.ofText (Text.ofLines ls)) ∧
        ls.length = 2 ∧ Text.splitLines (Text.ofLines ls) = ls ++ [[]] := by
  have he : ∀ e ∈ unusualBatch.events, e.IsText := by
    simp only [unusualBatch, List.forall_mem_cons]
    exact ⟨⟨⟨_, rfl⟩, ⟨_, rfl⟩, ⟨_, rfl⟩, ⟨_, rfl⟩⟩, ⟨⟨_, rfl⟩, ⟨_, rfl⟩, ⟨_, rfl⟩, ⟨_, rfl⟩⟩,
      List.forall_mem_nil _⟩
  have hs : ∀ x ∈ unusualBatch.subscriptions, x.IsText := by
    simp only [unusualBatch, List.forall_mem_cons]
    exact ⟨⟨⟨_, rfl⟩, by simp⟩, nofun⟩
  obtain ⟨hdocument, -, ls, hlines, hsplit, hmap, -, vs, hread, hevents⟩ :=
    document_and_lines he hs (some (-2)) (Nat.le_refl 4)
  refine ⟨hdocument (by simp [Json.IsUsable]), ls, hlines, ?_, hsplit⟩
  rw [mapM_eq_ok_map fun e hm => line_event (he e hm)] at hmap
  rw [← List.length_map CodePoints.ofText, ← Except.ok.inj hmap, List.length_map]
  rfl

/-- Some indentations are too large, even if they stand for no space at all. -/
theorem batch_of_wideIndent :
    ¬∃ ps, batch (some (.spaces (-0x8000000000000001))) {} = .ok ps := by
  have hwide : ¬Json.IsUsable (some (-0x8000000000000001)) := by simp [Json.IsUsable]
  obtain ⟨o, ho⟩ := batch_of_not_isUsable hwide {}
  rintro ⟨ps, h⟩
  cases h.symm.trans ho

end Report

end ChangeFeed
