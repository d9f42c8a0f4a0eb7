import ChangeFeed.Proofs.Symbol.Changed

/-!
# The spans tile the lines

Where a tag ends depends only on the lines of the tags: it is one line before the least line behind
its own (`nextLine?`), whatever the way back through the groups of equal lines looks like
(`spansOf_eq_map`). So a line lies in the spans of the tags that govern it and in no other one
(`covers_iff_governs`), and a line that is not in front of all tags lies in some span. The way back
only looks at tags that are there, and each of its steps leaves fewer of them: both are parts of
`SymbolIndex.endsFrom` and of the loops that it calls.
-/

namespace ChangeFeed

/-- The least line of a tag behind a line, if there is one. -/
def nextLine? (tags : List Tag) (line : Int) : Option Int :=
  ((tags.map Tag.line).filter (line < ·)).min?

/-- The end of a span behind which the next one starts, if one does. -/
def SpanEnd.before : Option Int → SpanEnd
  | some next => line (next - 1)
  | none => fileEnd

/-- A line is one of those of a span. -/
def TagSpan.Covers (s : TagSpan) (n : Int) : Prop := s.tag.line ≤ n ∧ s.last.isBefore n = false

instance (s : TagSpan) (n : Int) : Decidable (s.Covers n) := inferInstanceAs (Decidable (_ ∧ _))

variable {tags : List Tag} {line : Int}

namespace SpanEnd

theorem isBefore_line_succ (m : Int) : (SpanEnd.line m).isBefore (m + 1) = true :=
  decide_eq_true (Int.lt_succ m)

theorem eq_of_isBefore {e e' : SpanEnd} (h : ∀ n, e.isBefore n = e'.isBefore n) : e = e' := by
  cases e with
  | line m =>
    cases e' with
    | line m' =>
      have hm := h (m + 1)
      have hm' := h (m' + 1)
      simp only [isBefore, decide_eq_decide] at hm hm'
      exact congrArg line (by omega)
    | fileEnd => cases (isBefore_line_succ m).symm.trans (h (m + 1))
  | fileEnd =>
    cases e' with
    | line m' => cases (isBefore_line_succ m').symm.trans (h (m' + 1)).symm
    | fileEnd => rfl

theorem IsEnd.unique {e e' : SpanEnd} (h : e.IsEnd tags line) (h' : e'.IsEnd tags line) :
    e = e' :=
  eq_of_isBefore fun n => Bool.eq_iff_iff.2 ((h n).trans (h' n).symm)

theorem isEnd_before (tags : List Tag) (line : Int) :
    (before (nextLine? tags line)).IsEnd tags line := by
  cases hnext : nextLine? tags line with
  | none =>
    rw [nextLine?, List.min?_eq_none_iff, List.filter_eq_nil_iff] at hnext
    refine isEnd_fileEnd fun u hu => ?_
    simpa using hnext u.line (List.mem_map_of_mem hu)
  | some next =>
    rw [nextLine?, List.min?_eq_some_iff] at hnext
    obtain ⟨hmem, hleast⟩ := hnext
    obtain ⟨hmem, hlt⟩ := List.mem_filter.1 hmem
    obtain ⟨u, hu, rfl⟩ := List.mem_map.1 hmem
    refine isEnd_line hu (of_decide_eq_true hlt) fun v hv hlv => ?_
    exact hleast v.line (List.mem_filter.2 ⟨List.mem_map_of_mem hv, decide_eq_true hlv⟩)

end SpanEnd

theorem TagSpan.covers_iff_governs {s : TagSpan} (h : s.last.IsEnd tags s.tag.line) (n : Int) :
    s.Covers n ↔ s.tag.Governs tags n := by
  rw [Covers, Tag.Governs, ← Bool.not_eq_true, h n]
  refine and_congr_right fun _ => ?_
  simp only [not_exists, not_and]
  refine forall₂_congr fun u _ => ?_
  omega

/-- Of the tags that are not behind a line, those with the greatest line govern it. -/
theorem exists_governs {t : Tag} {n : Int} (ht : t ∈ tags) (hle : t.line ≤ n) :
    ∃ u ∈ tags, u.Governs tags n := by
  have hmem : ∀ u ∈ tags, u.line ≤ n → u.line ∈ (tags.map Tag.line).filter (· ≤ n) :=
    fun u hu hun => List.mem_filter.2 ⟨List.mem_map_of_mem hu, decide_eq_true hun⟩
  obtain ⟨m, hm⟩ := Option.isSome_iff_exists.1
    (List.isSome_max?_of_mem (hmem t ht hle))
  obtain ⟨hm, hgreatest⟩ := List.max?_eq_some_iff.1 hm
  obtain ⟨hm, hmn⟩ := List.mem_filter.1 hm
  obtain ⟨u, hu, rfl⟩ := List.mem_map.1 hm
  exact ⟨u, hu, of_decide_eq_true hmn, fun v hv hvn => hgreatest v.line (hmem v hv hvn)⟩

namespace SymbolIndex

theorem spansOf_eq_map {sorted : List Tag} (h : sorted.Pairwise fun a b => a.line ≤ b.line)
    (hmem : ∀ t, t ∈ sorted ↔ t ∈ tags) :
    spansOf sorted = sorted.map fun t => ⟨t, .before (nextLine? tags t.line)⟩ := by
  have hspan : ∀ s ∈ spansOf sorted, s = ⟨s.tag, .before (nextLine? tags s.tag.line)⟩ := by
    intro s hs
    have hend : s.last.IsEnd tags s.tag.line := by
      have hsorted := isEnd_of_mem_spansOf h hs
      simpa only [SpanEnd.IsEnd, hmem] using hsorted
    exact congrArg (TagSpan.mk s.tag) (hend.unique (SpanEnd.isEnd_before tags s.tag.line))
  calc spansOf sorted
      = (spansOf sorted).map fun s => ⟨s.tag, .before (nextLine? tags s.tag.line)⟩ := by
        rw [List.map_congr_left fun s hs => (hspan s hs).symm, List.map_id']
    _ = ((spansOf sorted).map TagSpan.tag).map fun t => ⟨t, .before (nextLine? tags t.line)⟩ := by
        rw [List.map_map]
        rfl
    _ = sorted.map fun t => ⟨t, .before (nextLine? tags t.line)⟩ := by rw [spansOf_map_tag]

theorem elementOf_map {α β : Type} (f : α → β) (xs : List α) (position : Value) :
    position.elementOf (xs.map f) = (position.elementOf xs).map f := by
  have hnth : ∀ n, Value.elementOf.nth (xs.map f) n = (Value.elementOf.nth xs n).map f := by
    intro n
    simp only [Value.elementOf.nth, List.length_map, List.getElem?_map]
    generalize (if n < 0 then n + (xs.length : Int) else n) = m
    split
    · rfl
    · by_cases hm : 0 ≤ m
      · simp only [if_pos hm]
        cases xs[m.toNat]? <;> rfl
      · simp only [if_neg hm]
        rfl
  cases position with
  | int n => exact hnth n
  | bool b => exact hnth _
  | _ => rfl

theorem exists_head?_le {sorted : List Tag} (h : sorted.Pairwise fun a b => a.line ≤ b.line)
    {t : Tag} (ht : t ∈ sorted) : ∃ first ∈ sorted.head?, first.line ≤ t.line := by
  cases sorted with
  | nil => cases ht
  | cons first rest =>
    refine ⟨first, rfl, ?_⟩
    rcases List.mem_cons.1 ht with rfl | ht
    · exact Int.le_refl _
    · exact (List.pairwise_cons.1 h).1 t ht

/-- The index of tags has them in their stable order by line. The end of each of them is one line
before the least line of a tag behind its own, at every position that can be asked for, and a line
lies in the spans of exactly those tags whose line is the greatest one that is not behind it. Every
line lies in a span unless it is in front of the first tag. -/
theorem spans_ofTags (ht : ∀ t ∈ tags, t.file.isKey) :
    ∃ x, ofTags tags = .ok x ∧ StableOrder tags x.tags ∧
      x.spans = x.tags.map (fun t => ⟨t, .before (nextLine? tags t.line)⟩) ∧
      (∀ position, x.endAt position =
        (position.elementOf x.tags).map fun t => .before (nextLine? tags t.line)) ∧
      ∀ n, (∀ s ∈ x.spans, s.Covers n ↔ s.tag.Governs tags n) ∧
        ((∃ s ∈ x.spans, s.Covers n) ↔ ∃ first ∈ x.tags.head?, first.line ≤ n) := by
  have ho := stableOrder_sortByLine tags
  have hspans : spans ⟨sortByLine tags⟩ = (sortByLine tags).map fun t =>
      ⟨t, .before (nextLine? tags t.line)⟩ := spansOf_eq_map ho.ordered fun _ => ho.mem_iff
  have hcovers : ∀ n, ∀ s ∈ spans ⟨sortByLine tags⟩, s.Covers n ↔ s.tag.Governs tags n := by
    intro n s hs
    rw [hspans] at hs
    obtain ⟨t, -, rfl⟩ := List.mem_map.1 hs
    exact TagSpan.covers_iff_governs (SpanEnd.isEnd_before tags t.line) n
  refine ⟨_, ofTags_eq_ok ht, ho, hspans, ?_, fun n => ⟨hcovers n, ?_, ?_⟩⟩
  · intro position
    rw [endAt, hspans, elementOf_map]
    cases position.elementOf (sortByLine tags) <;> rfl
  · rintro ⟨s, hs, hle, -⟩
    have htag : s.tag ∈ sortByLine tags := by
      rw [← spansOf_map_tag (sortByLine tags)]
      exact List.mem_map_of_mem hs
    obtain ⟨first, hfirst, hline⟩ := exists_head?_le ho.ordered htag
    exact ⟨first, hfirst, Int.le_trans hline hle⟩
  · rintro ⟨first, hfirst, hle⟩
    obtain ⟨t, htag, hgoverns⟩ := exists_governs (ho.mem_iff.1 (List.mem_of_mem_head? hfirst)) hle
    have hspan : (⟨t, .before (nextLine? tags t.line)⟩ : TagSpan) ∈ spans ⟨sortByLine tags⟩ := by
      rw [hspans]
      exact List.mem_map.2 ⟨t, ho.mem_iff.2 htag, rfl⟩
    exact ⟨_, hspan, (hcovers n _ hspan).2 hgoverns⟩

theorem spans_ofTags_interleaved :
    (∀ t ∈ interleaved, t.file.isKey) ∧ ∃ x, ofTags interleaved = .ok x ∧
      x.spans.map TagSpan.last = [.line 3, .line 9, .fileEnd, .fileEnd] ∧
      x.endAt (.int 1) = .ok (.line 9) ∧ x.endAt (.int (-1)) = .ok .fileEnd ∧
      x.endAt (.int 4) = .error .noElement ∧
      (∀ s ∈ x.spans, s.Covers 9 ↔ s.tag.Governs interleaved 9) ∧
      (∃ s ∈ x.spans, s.Covers 1) ∧ ¬∃ s ∈ x.spans, s.Covers 0 := by
  have ht : ∀ t ∈ interleaved, t.file.isKey := by decide
  obtain ⟨x, hx, -, hspans, hend, hlines⟩ := spans_ofTags ht
  obtain rfl : ⟨sortByLine interleaved⟩ = x := Except.ok.inj ((ofTags_eq_ok ht).symm.trans hx)
  rw [sortByLine_interleaved] at hx hspans hend hlines
  refine ⟨ht, _, hx, ?_, ?_, ?_, ?_, (hlines 9).1, (hlines 1).2.2 ?_, fun h => ?_⟩
  · rw [hspans]
    decide
  · rw [hend]
    rfl
  · rw [hend]
    rfl
  · rw [hend]
    rfl
  · exact ⟨_, rfl, by decide⟩
  · obtain ⟨first, hfirst, hle⟩ := (hlines 0).2.1 h
    obtain rfl := Option.some.inj hfirst
    exact absurd hle (by decide)

end SymbolIndex

end ChangeFeed
