import ChangeFeed.Proofs.Symbol.Changed

/-!
# More tags narrow what hunks change

A tag reaches up to the next line that has a tag, so another tag can only take lines away from it,
and takes none if its line has a tag already (`Hunk.Touches.of_subset`,
`Hunk.touches_iff_of_lines`). To say this of lists of tags, of which some may be equal, the tags
have marks that a sort carries along (`SymbolIndex.changedMarked`). The tags that are changed among
all are then changed among some of them, in the same order
(`SymbolIndex.changedMarked_of_interleaves`).
-/

namespace ChangeFeed

namespace Hunk
variable {few all : List Tag} {t : Tag} {h : Hunk}

theorem Touches.of_subset (ht : h.Touches all t) (hsub : few ⊆ all) : h.Touches few t :=
  ⟨ht.1, fun u hu => ht.2 u (hsub hu)⟩

theorem touches_iff_of_lines (hsub : few ⊆ all)
    (hlines : ∀ u ∈ all, ∃ v ∈ few, v.line = u.line) : h.Touches all t ↔ h.Touches few t := by
  refine ⟨fun ht => ht.of_subset hsub, fun ht => ⟨ht.1, fun u hu => ?_⟩⟩
  obtain ⟨v, hv, hline⟩ := hlines u hu
  rw [← hline]
  exact ht.2 v hv

end Hunk

namespace SymbolIndex
variable {ι : Type} {mine others all : List (Tag × ι)} {hs : List Hunk}

/-- Tags with marks in the order of their lines; those of the same line keep their order. -/
def sortMarked (tags : List (Tag × ι)) : List (Tag × ι) :=
  tags.mergeSort fun a b => decide (a.1.line ≤ b.1.line)

/-- The tags that hunks change with their marks, in the order of their lines. -/
def changedMarked (tags : List (Tag × ι)) (hs : List Hunk) : List (Tag × ι) :=
  (sortMarked tags).filter fun t => t.1 ∈ changed ⟨sortByLine (tags.map Prod.fst)⟩ hs

/-- A hunk of its file touches the tag, among all that are given. -/
def IsTouched (tags : List Tag) (hs : List Hunk) (t : Tag) : Prop :=
  ∃ h ∈ hs, Value.sameKey t.file h.filename ∧ h.Touches tags t

instance (tags : List Tag) (hs : List Hunk) (t : Tag) : Decidable (IsTouched tags hs t) :=
  inferInstanceAs (Decidable (∃ h ∈ hs, _))

theorem isTouched_iff_of_lines {few all : List Tag} (hsub : few ⊆ all)
    (hlines : ∀ u ∈ all, ∃ v ∈ few, v.line = u.line) (t : Tag) :
    IsTouched all hs t ↔ IsTouched few hs t := by
  simp only [IsTouched, Hunk.touches_iff_of_lines hsub hlines]

theorem map_sortMarked (tags : List (Tag × ι)) :
    (sortMarked tags).map Prod.fst = sortByLine (tags.map Prod.fst) :=
  List.map_mergeSort fun _ _ _ _ => rfl

theorem filter_sortMarked (p : Tag × ι → Bool) (tags : List (Tag × ι)) :
    (sortMarked tags).filter p = sortMarked (tags.filter p) :=
  filter_mergeSort_key (fun t : Tag × ι => t.1.line) p tags

theorem changed_eq_filter_isTouched (tags : List Tag) (hs : List Hunk) :
    changed ⟨sortByLine tags⟩ hs = (sortByLine tags).filter fun t => IsTouched tags hs t :=
  changed_sortByLine tags hs

theorem changedMarked_eq_filter (tags : List (Tag × ι)) (hs : List Hunk) : changedMarked tags hs =
    (sortMarked tags).filter fun t => IsTouched (tags.map Prod.fst) hs t.1 := by
  refine List.filter_congr fun t ht => ?_
  have hmem : t.1 ∈ sortByLine (tags.map Prod.fst) := by
    rw [← map_sortMarked]
    exact List.mem_map_of_mem ht
  rw [changed_eq_filter_isTouched, decide_eq_decide, List.mem_filter, decide_eq_true_eq]
  exact and_iff_right hmem

theorem map_changedMarked (tags : List (Tag × ι)) (hs : List Hunk) :
    (changedMarked tags hs).map Prod.fst = changed ⟨sortByLine (tags.map Prod.fst)⟩ hs := by
  rw [changedMarked_eq_filter, changed_eq_filter_isTouched, ← map_sortMarked, List.filter_map]
  rfl

theorem IsTouched.of_subset {few all : List Tag} {t : Tag} (ht : IsTouched all hs t)
    (hsub : few ⊆ all) : IsTouched few hs t := by
  obtain ⟨h, hh, hfile, ht⟩ := ht
  exact ⟨h, hh, hfile, ht.of_subset hsub⟩

/-- Of tags that stand among others, those that are changed are changed without the others as well,
and they come in the same order. If the others stand on lines of these tags, no change of a line is
lost. -/
theorem changedMarked_of_interleaves (hi : Interleaves mine others all) {p : ι → Bool}
    (hmine : ∀ t ∈ mine, p t.2 = true) (hothers : ∀ t ∈ others, p t.2 = false)
    (ht : ∀ t ∈ all, t.1.file.isKey) (hh : ∀ h ∈ hs, h.filename.isKey) :
    ofTags (all.map Prod.fst) >>= (·.correlate hs) = .ok ((changedMarked all hs).map Prod.fst) ∧
      ofTags (mine.map Prod.fst) >>= (·.correlate hs) =
        .ok ((changedMarked mine hs).map Prod.fst) ∧
      ((changedMarked all hs).filter (p ·.2)).Sublist (changedMarked mine hs) ∧
      ((∀ t ∈ others, ∃ u ∈ mine, u.1.line = t.1.line) →
        (changedMarked all hs).filter (p ·.2) = changedMarked mine hs) := by
  have hsub : mine ⊆ all := fun t ht => hi.mem_iff.2 (.inl ht)
  have hfirst : mine.map Prod.fst ⊆ all.map Prod.fst := List.map_subset _ hsub
  have hall : ∀ t ∈ all.map Prod.fst, t.file.isKey := List.forall_mem_map.2 ht
  have hsome : ∀ t ∈ mine.map Prod.fst, t.file.isKey := fun t ht => hall t (hfirst ht)
  have hfilter : (changedMarked all hs).filter (p ·.2) =
      (sortMarked mine).filter fun t => IsTouched (all.map Prod.fst) hs t.1 := by
    rw [changedMarked_eq_filter, List.filter_comm, filter_sortMarked, hi.filter_eq hmine hothers]
  refine ⟨?_, ?_, ?_, fun hlines => ?_⟩
  · rw [ofTags_correlate_eq_changed hall hh, map_changedMarked]
  · rw [ofTags_correlate_eq_changed hsome hh, map_changedMarked]
  · rw [hfilter, changedMarked_eq_filter]
    refine List.monotone_filter_right _ fun t htouched => ?_
    simp only [decide_eq_true_eq] at htouched ⊢
    exact htouched.of_subset hfirst
  · have hline : ∀ u ∈ all.map Prod.fst, ∃ v ∈ mine.map Prod.fst, v.line = u.line := by
      refine List.forall_mem_map.2 fun u hu => ?_
      obtain ⟨v, hv, hline⟩ : ∃ v ∈ mine, v.1.line = u.1.line := by
        rcases hi.mem_iff.1 hu with hu | hu
        · exact ⟨u, hu, rfl⟩
        · exact hlines u hu
      exact ⟨v.1, List.mem_map_of_mem hv, hline⟩
    rw [hfilter, changedMarked_eq_filter]
    simp only [isTouched_iff_of_lines hfirst hline]

/-- Tags of two files with the positions at which they are listed. -/
def listed : List (Tag × Nat) := interleaved.zipIdx

theorem changedMarked_listed :
    let mine := listed.filter (·.2 != 3)
    let others := listed.filter (·.2 == 3)
    Interleaves mine others listed ∧ (∀ t ∈ mine, (t.2 != 3) = true) ∧
      (∀ t ∈ others, (t.2 != 3) = false) ∧ (∀ t ∈ listed, t.1.file.isKey) ∧
      (∀ h ∈ linesAndGap, h.filename.isKey) ∧ (∀ t ∈ others, ∃ u ∈ mine, u.1.line = t.1.line) ∧
      (changedMarked listed linesAndGap).filter (·.2 != 3) = changedMarked mine linesAndGap := by
  intro mine others
  have hi : Interleaves mine others listed := .left (.left (.left (.right .nil)))
  have hmine : ∀ t ∈ mine, (t.2 != 3) = true := by decide
  have hothers : ∀ t ∈ others, (t.2 != 3) = false := by decide
  have ht : ∀ t ∈ listed, t.1.file.isKey := by decide
  have hh : ∀ h ∈ linesAndGap, h.filename.isKey := by decide
  have hlines : ∀ t ∈ others, ∃ u ∈ mine, u.1.line = t.1.line := by decide
  obtain ⟨-, -, -, hsame⟩ := changedMarked_of_interleaves (p := (· != 3)) hi hmine hothers ht hh
  exact ⟨hi, hmine, hothers, ht, hh, hlines, hsame hlines⟩

/-- The tag at position 1 ends that at position 2 in front of the new lines. -/
example : (changedMarked listed linesAndGap).map Prod.snd = [0, 3] ∧
    (changedMarked (listed.filter (·.2 != 1)) linesAndGap).map Prod.snd = [2, 0, 3] := by
  constructor
  · cbv
  · cbv

end SymbolIndex

end ChangeFeed
