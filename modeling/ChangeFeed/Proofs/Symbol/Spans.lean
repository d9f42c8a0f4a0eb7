import ChangeFeed.Proofs.KeptOrder
import ChangeFeed.Symbol.Index
import Mathlib.Tactic.SplitIfs

/-!
# The spans of tags in order

`SymbolIndex.ofTags` puts the tags into their stable order by line (`StableOrder`). The way back
through the tags then finds for each of them an end that lies in front of the next greater line of
any tag (`SpanEnd.IsEnd`): `EndsFound` is what holds on the way, `EndsFound.step` is one group of
tags, and `endsFrom_found` is the whole way.
-/

namespace ChangeFeed

/-- The tags with the lines in order, and those of each line in the order they came in. -/
structure StableOrder (tags sorted : List Tag) : Prop where
  ordered : sorted.Pairwise fun a b => a.line ≤ b.line
  sameLine : ∀ n, sorted.filter (·.line = n) = tags.filter (·.line = n)

theorem StableOrder.mem_iff {tags sorted : List Tag} (h : StableOrder tags sorted) {t : Tag} :
    t ∈ sorted ↔ t ∈ tags := mem_iff_of_filter_key h.sameLine

namespace SpanEnd

/-- A span that starts at `line` has this end: the lines behind it are those for which a tag starts
behind `line` and not later. -/
def IsEnd (tags : List Tag) (line : Int) (e : SpanEnd) : Prop :=
  ∀ n, e.isBefore n ↔ ∃ u ∈ tags, line < u.line ∧ u.line ≤ n

variable {tags : List Tag} {line : Int}

theorem isEnd_fileEnd (h : ∀ u ∈ tags, u.line ≤ line) : fileEnd.IsEnd tags line := by
  intro n
  constructor
  · intro hn
    cases hn
  · rintro ⟨u, hu, hlt, -⟩
    have := h u hu
    omega

theorem isEnd_line {u : Tag} (hu : u ∈ tags) (hlt : line < u.line)
    (h : ∀ v ∈ tags, line < v.line → u.line ≤ v.line) :
    (SpanEnd.line (u.line - 1)).IsEnd tags line := by
  intro n
  simp only [isBefore, decide_eq_true_eq]
  constructor
  · intro hn
    exact ⟨u, hu, hlt, by omega⟩
  · rintro ⟨v, hv, hlv, hvn⟩
    have := h v hv hlv
    omega

end SpanEnd

namespace SymbolIndex

theorem ordered_sortByLine (tags : List Tag) :
    (sortByLine tags).Pairwise fun a b => a.line ≤ b.line := pairwise_mergeSort_key Tag.line tags

theorem filter_sortByLine (tags : List Tag) (n : Int) :
    (sortByLine tags).filter (·.line = n) = tags.filter (·.line = n) :=
  filter_key_mergeSort Tag.line tags n

theorem stableOrder_sortByLine (tags : List Tag) : StableOrder tags (sortByLine tags) :=
  ⟨ordered_sortByLine tags, filter_sortByLine tags⟩

theorem ofTags_eq_ok {tags : List Tag} (h : ∀ t ∈ tags, t.file.isKey) :
    ofTags tags = .ok ⟨sortByLine tags⟩ := by
  have hf : (sortByLine tags).find? (fun t => !t.file.isKey) = none := by
    rw [List.find?_eq_none]
    intro t ht
    simp [h t ((stableOrder_sortByLine tags).mem_iff.1 ht)]
  simp only [ofTags, hf]

section
variable {ts : Array Tag}

theorem line_of_groupStart_le {line : Int} {n j : Nat} {h : n ≤ ts.size}
    (hj : groupStart ts line n h ≤ j) (hn : j < n) : ts[j].line = line := by
  induction n with
  | zero => omega
  | succ n ih =>
    rw [groupStart] at hj
    split at hj
    · rcases Nat.lt_succ_iff_lt_or_eq.1 hn with hn | rfl
      · exact ih hj hn
      · assumption
    · omega

theorem line_of_group {i j : Nat} (hi : i < ts.size)
    (hj : groupStart ts ts[i].line i (Nat.le_of_lt hi) ≤ j) (hji : j ≤ i) :
    ts[j].line = ts[i].line := by
  rcases Nat.lt_or_eq_of_le hji with hji | rfl
  · exact line_of_groupStart_le hj hji
  · rfl

theorem line_ne_of_groupStart {line : Int} {n f : Nat} {h : n ≤ ts.size} (hf : f < ts.size)
    (he : groupStart ts line n h = f + 1) : ts[f].line ≠ line := by
  induction n with
  | zero => cases he
  | succ n ih =>
    rw [groupStart] at he
    split at he
    · exact ih he
    · cases he
      assumption

theorem getElem_fill {size : Nat} {bound : SpanEnd} {first stop : Nat} (h : stop ≤ size)
    {ends : Vector SpanEnd size} {j : Nat} (hj : j < size) :
    (fill bound first stop h ends)[j] = if first ≤ j ∧ j < stop then bound else ends[j] := by
  induction stop generalizing ends with
  | zero => simp [fill]
  | succ n ih =>
    rw [fill]
    split
    · rw [ih, Vector.getElem_set]
      split_ifs <;> first | rfl | omega
    · exact (if_neg (by omega)).symm

/-- What holds when the ends of the first `left` tags are still to be found: `bound` is the end of
the last of them, and those behind them have their ends. -/
structure EndsFound (ts : Array Tag) (left : Nat) (bound : SpanEnd)
    (ends : Vector SpanEnd ts.size) : Prop where
  next : ∀ i (h : i < ts.size), i + 1 = left → bound.IsEnd ts.toList ts[i].line
  behind : ∀ j (h : j < ts.size), left ≤ j → ends[j].IsEnd ts.toList ts[j].line

variable (hs : ts.toList.Pairwise fun a b => a.line ≤ b.line)
include hs

theorem line_le_of_ordered {i j : Nat} (hij : i ≤ j) (hj : j < ts.size) :
    ts[i].line ≤ ts[j].line := by
  rcases Nat.lt_or_eq_of_le hij with hij | rfl
  · have hl : j < ts.toList.length := by simpa using hj
    exact List.pairwise_iff_getElem.1 hs i j (Nat.lt_trans hij hl) hl hij
  · exact Int.le_refl _

/-- The tags of one group get the end that was found for the last of them, and the tag in front of
the group ends in front of its line. -/
theorem EndsFound.step {i : Nat} {bound : SpanEnd} {ends : Vector SpanEnd ts.size}
    (h : i + 1 ≤ ts.size) (hf : EndsFound ts (i + 1) bound ends) :
    EndsFound ts (groupStart ts ts[i].line i (Nat.le_of_succ_le h)) (.line (ts[i].line - 1))
      (fill bound (groupStart ts ts[i].line i (Nat.le_of_succ_le h)) (i + 1) h ends) where
  next f hfs he := by
    have hle := groupStart_le ts ts[i].line i (by omega)
    have hne := line_ne_of_groupStart hfs he.symm
    have hfi := line_le_of_ordered hs (show f ≤ i by omega) h
    refine SpanEnd.isEnd_line (by simp) (by omega) fun v hv hlv => ?_
    obtain ⟨j, hj, rfl⟩ := Array.mem_iff_getElem.1 (Array.mem_toList_iff.1 hv)
    -- a tag with a greater line stands behind `f`, so in the group or behind it
    have hfj : f < j := by
      refine Nat.lt_of_not_le fun hjf => ?_
      have := line_le_of_ordered hs hjf hfs
      omega
    rcases Nat.le_total j i with hji | hij
    · exact Int.le_of_eq (line_of_group h (by rw [← he]; exact hfj) hji).symm
    · exact line_le_of_ordered hs hij hj
  behind j hj hle := by
    rw [getElem_fill h hj]
    split
    · next hin =>
      rw [line_of_group h hle (Nat.le_of_lt_succ hin.2)]
      exact hf.next i h rfl
    · exact hf.behind j hj (by omega)

theorem endsFrom_found {left : Nat} {bound : SpanEnd} {ends : Vector SpanEnd ts.size}
    (h : left ≤ ts.size) (hf : EndsFound ts left bound ends) :
    ∀ j (hj : j < ts.size), (endsFrom ts left h bound ends)[j].IsEnd ts.toList ts[j].line := by
  fun_induction endsFrom with
  | case1 => exact fun j hj => hf.behind j hj (Nat.zero_le j)
  | case2 bound ends i h line first hle _ ih => exact ih (hf.step hs h)

theorem implicitEnds_isEnd {j : Nat} (hj : j < ts.size) :
    (implicitEnds ts)[j].IsEnd ts.toList ts[j].line := by
  refine endsFrom_found hs (Nat.le_refl _) ⟨fun i h he => ?_, fun j h hj => by omega⟩ j hj
  refine SpanEnd.isEnd_fileEnd fun u hu => ?_
  obtain ⟨k, hk, rfl⟩ := Array.mem_iff_getElem.1 (Array.mem_toList_iff.1 hu)
  exact line_le_of_ordered hs (by omega) h

end

theorem isEnd_of_mem_spansOf {ts : List Tag} (h : ts.Pairwise fun a b => a.line ≤ b.line)
    {s : TagSpan} (hm : s ∈ spansOf ts) : s.last.IsEnd ts s.tag.line := by
  obtain ⟨j, hj, rfl⟩ := List.mem_iff_getElem.1 hm
  have hl : j < ts.toArray.size := by
    rw [spansOf, List.length_zipWith] at hj
    simpa using (Nat.lt_min.1 hj).1
  simp only [spansOf, List.getElem_zipWith]
  exact implicitEnds_isEnd h hl

end SymbolIndex

end ChangeFeed
