import ChangeFeed.Reference.Scanner
import Mathlib.Data.List.TakeWhile

/-!
# References are words

Whatever a scanner ignores, the names that it reports consist of word characters
(`isWordRun_of_mem_scan`), so none of the marks that separate words can stand in them. Of calls this
is kept up along the line for the word that is being read; a component begins with a capital, which
is a word character too.
-/

namespace ChangeFeed

namespace Text

theorem isWord_of_isAsciiUpper {c : Char} (h : isAsciiUpper c = true) : isWord c = true := by
  have hc : c.toNat < 128 := by
    simp only [isAsciiUpper, Bool.and_eq_true, decide_eq_true_eq, Char.le_def,
      UInt32.le_iff_toNat_le] at h
    exact Nat.lt_of_le_of_lt h.2 (by decide)
  simp [isWord, hc, isAsciiLetter, h]

theorem not_isWord_parenthesis : ¬ isWord '(' = true := by decide

theorem isBlank_of_isWord {c : Char} (h : isWord c = true) : isBlank c = false := by
  have hapart : ∀ r ∈ blankRanges, ∀ q ∈ wordRanges, q.2 < r.1 ∨ r.2 < q.1 := by decide +kernel
  unfold isWord at h
  unfold isBlank
  split at h
  · next hlow =>
    rw [if_pos hlow]
    simp only [isAsciiLetter, isAsciiLower, isAsciiUpper, isAsciiDigit, Bool.or_eq_true,
      Bool.and_eq_true, decide_eq_true_eq, beq_iff_eq, Char.le_def, UInt32.le_iff_toNat_le] at h
    have hc : 48 ≤ c.toNat := by
      rcases h with ((h | h) | h) | rfl
      · exact Nat.le_trans (by decide) h.1
      · exact Nat.le_trans (by decide) h.1
      · exact h.1
      · decide
    simp only [Bool.or_eq_false_iff, Bool.and_eq_false_iff, decide_eq_false_iff_not,
      beq_eq_false_iff_ne]
    omega
  · next hhigh =>
    obtain ⟨q, hq, hc⟩ := List.any_eq_true.1 h
    simp only [Bool.and_eq_true, decide_eq_true_eq] at hc
    rw [if_neg hhigh, inRanges, List.any_eq_false]
    intro r hr
    have := hapart r hr q hq
    simp only [Bool.and_eq_true, decide_eq_true_eq]
    omega

end Text

namespace Scanner

variable {s : Scanner} {name word t : Text}

/-- All characters belong to words. -/
def IsWordRun (name : Text) : Prop := ∀ c ∈ name, Text.isWord c = true

instance (name : Text) : Decidable (IsWordRun name) := List.decidableBAll _ name

theorem isWordRun_of_mem_callsFrom (hw : IsWordRun word) (h : name ∈ callsFrom word t) :
    IsWordRun name := by
  have hnil : IsWordRun [] := by simp [IsWordRun]
  induction t generalizing word with
  | nil => simp [callsFrom] at h
  | cons c t ih =>
    rw [callsFrom] at h
    split at h
    · next hc =>
      refine ih (fun d hd => ?_) h
      rcases List.mem_cons.1 hd with rfl | hd
      · exact hc
      · exact hw d hd
    · split at h
      · rcases List.mem_cons.1 h with rfl | h
        · exact fun d hd => hw d (List.mem_reverse.1 hd)
        · exact ih hnil h
      · exact ih hnil h

theorem isWordRun_of_component? (h : component? t = some name) : IsWordRun name := by
  induction t using component?.induct with
  | case1 c t hc =>
    rw [component?, if_pos hc] at h
    cases h
    intro d hd
    rcases List.mem_cons.1 hd with rfl | hd
    · exact Text.isWord_of_isAsciiUpper hc
    · exact List.mem_takeWhile_imp hd
  | case2 c t hc ih =>
    rw [component?, if_neg hc] at h
    exact ih h
  | case3 c t hne ih =>
    rw [component?] at h
    · exact ih h
    · exact hne
  | case4 => simp [component?] at h

theorem isWordRun_of_mem_scanLine {kind : ReferenceKind} (h : (name, kind) ∈ s.scanLine t) :
    IsWordRun name := by
  simp only [scanLine, List.mem_append, List.mem_map, List.mem_filter, Prod.mk.injEq] at h
  rcases h with ⟨_, ⟨hm, -⟩, rfl, -⟩ | ⟨_, hm, rfl, -⟩
  · exact isWordRun_of_mem_callsFrom (by simp [IsWordRun]) hm
  · split at hm
    · have hm := (List.mem_filter.1 hm).1
      exact isWordRun_of_component? (Option.mem_toList.1 hm)
    · simp at hm

theorem isWordRun_of_mem_scan {hs : List Hunk} {r : Reference} (h : r ∈ s.scan hs) :
    ∃ name, r.name = .text name ∧ IsWordRun name := by
  simp only [scan, scanHunk, scanAdded, List.mem_flatMap, List.mem_map] at h
  obtain ⟨_, -, l, -, ⟨name, kind⟩, hm, rfl⟩ := h
  exact ⟨name, rfl, isWordRun_of_mem_scanLine hm⟩

end Scanner

end ChangeFeed
