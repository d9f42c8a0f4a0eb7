import ChangeFeed.Proofs.Text.Numeral
import ChangeFeed.Text.LetterCase

/-!
# Texts of digit characters

A digit character is a decimal digit or one that only stands for a digit, as superscripts do. All of
them lie in ranges of their own, apart from the blanks and the capitals. So of a text of digit
characters nothing is stripped; what is read of it are the decimal digits at its start, and it is a
numeral exactly if these are all of it, and not too many (`Numeral.exists_read_iff_of_isDigitText`).
-/

namespace ChangeFeed

namespace Text
variable {c : Char} {t : Text}

theorem range_of_isDigitLike (h : isDigitLike c = true) : c.toNat < 128 ∧ isAsciiDigit c = true ∨
    128 ≤ c.toNat ∧ ∃ r ∈ decimalRanges ++ otherDigitRanges, r.1 ≤ c.toNat ∧ c.toNat ≤ r.2 := by
  simp only [List.mem_append]
  rcases Bool.or_eq_true_iff.1 h with h | h
  · unfold isDecimal decimalValue? at h
    split at h
    · next hlow =>
      refine .inl ⟨hlow, ?_⟩
      split at h
      · assumption
      · cases h
    · next hhigh =>
      rw [Option.isSome_map, List.find?_isSome] at h
      obtain ⟨r, hr, hc⟩ := h
      rw [Bool.and_eq_true, decide_eq_true_eq, decide_eq_true_eq] at hc
      exact .inr ⟨Nat.le_of_not_lt hhigh, r, .inl hr, hc⟩
  · obtain ⟨hhigh, h⟩ := Bool.and_eq_true_iff.1 h
    obtain ⟨r, hr, hc⟩ := List.any_eq_true.1 h
    rw [Bool.and_eq_true, decide_eq_true_eq, decide_eq_true_eq] at hc
    exact .inr ⟨of_decide_eq_true hhigh, r, .inr hr, hc⟩

theorem isBlank_of_isDigitLike (h : isDigitLike c = true) : isBlank c = false := by
  have hapart : ∀ r ∈ blankRanges, ∀ q ∈ decimalRanges ++ otherDigitRanges,
      q.2 < r.1 ∨ r.2 < q.1 := by decide +kernel
  rcases range_of_isDigitLike h with ⟨hlow, hdigit⟩ | ⟨hhigh, q, hq, hc⟩
  · have hd : 48 ≤ c.toNat ∧ c.toNat ≤ 57 := by
      simpa [isAsciiDigit, Char.le_def, UInt32.le_iff_toNat_le] using hdigit
    simp only [isBlank, if_pos hlow, Bool.or_eq_false_iff, Bool.and_eq_false_iff,
      decide_eq_false_iff_not, beq_eq_false_iff_ne]
    omega
  · rw [isBlank, if_neg (Nat.not_lt.2 hhigh), inRanges, List.any_eq_false]
    intro r hr
    have := hapart r hr q hq
    rw [Bool.and_eq_true, decide_eq_true_eq, decide_eq_true_eq]
    omega

theorem isDigitLike_of_isDecimal (h : isDecimal c = true) : isDigitLike c = true := by
  rw [isDigitLike, h, Bool.true_or]

theorem lowerChar_of_isDigitLike (h : isDigitLike c = true) : lowerChar c = c := by
  -- in the booleans, since there are many pairs
  have hapart : (lowerRuns.all fun r => (decimalRanges ++ otherDigitRanges).all fun q =>
      Nat.blt q.2 r.1 || Nat.blt r.2.1 q.1) = true := by decide +kernel
  rcases range_of_isDigitLike h with ⟨hlow, hdigit⟩ | ⟨hhigh, q, hq, hc⟩
  · have hupper : isAsciiUpper c = false := by
      simp only [isAsciiDigit, isAsciiUpper, Bool.and_eq_true, Bool.and_eq_false_iff,
        decide_eq_true_eq, decide_eq_false_iff_not] at hdigit ⊢
      exact .inl fun hcapital => absurd (Char.le_trans hcapital hdigit.2) (by decide)
    rw [lowerChar, if_pos hlow, if_neg (by simp [hupper])]
  · have hnone : lowerRuns.find? (fun r =>
        r.1 ≤ c.toNat && c.toNat ≤ r.2.1 && (c.toNat - r.1) % r.2.2.1 == 0) = none := by
      rw [List.find?_eq_none]
      intro r hr
      have := List.all_eq_true.1 (List.all_eq_true.1 hapart r hr) q hq
      rw [Bool.or_eq_true, Nat.blt_eq, Nat.blt_eq] at this
      simp only [Bool.and_eq_true, decide_eq_true_eq]
      omega
    rw [lowerChar, if_neg (Nat.not_lt.2 hhigh), hnone]

theorem lower_cons_of_isDigitLike (h : isDigitLike c = true) (t : Text) :
    lower (c :: t) = c :: lowerAfter [c] t := by
  have hspecial : ∀ n ∈ [0x3a3, 0x130], (c.toNat == n) = false := by
    intro n hn
    have hchar : isDigitLike (Char.ofNat n) = false := by
      revert n
      decide
    rw [beq_eq_false_iff_ne]
    rintro rfl
    rw [Char.ofNat_toNat] at hchar
    rw [h] at hchar
    cases hchar
  rw [lower, lowerAfter, hspecial 0x3a3 (by simp), hspecial 0x130 (by simp),
    lowerChar_of_isDigitLike h]
  rfl

theorem isDigitText_iff : isDigitText t = true ↔ t ≠ [] ∧ ∀ c ∈ t, isDigitLike c = true := by
  simp [isDigitText]

end Text

namespace Numeral
variable {t : Text}

theorem digitRun_of_isDigitText (h : Text.isDigitText t = true) :
    digitRun t = (t.takeWhile Text.isDecimal, t.dropWhile Text.isDecimal) := by
  refine Text.span_eq_iff.2 ⟨List.takeWhile_append_dropWhile.symm, fun c hc => ?_, fun c hc => ?_⟩
  · rw [List.mem_takeWhile_imp hc, Bool.true_or]
  · have hmem : c ∈ t := (List.dropWhile_sublist _).mem (List.mem_of_mem_head? hc)
    have hunderscore : (c == '_') = false := by
      rw [beq_eq_false_iff_ne]
      rintro rfl
      exact absurd ((Text.isDigitText_iff.1 h).2 '_' hmem) (by decide)
    have hdecimal := List.head?_dropWhile_not Text.isDecimal t
    rw [Option.mem_def.1 hc] at hdecimal
    rw [hunderscore, Bool.or_false]
    simpa using hdecimal

theorem isMargin_of_isDigitLike {c : Char} (h : Text.isDigitLike c = true) :
    isMargin c = false := by
  rw [isMargin, Text.isBlank_of_isDigitLike h, Bool.false_and]

theorem sign_of_isDigitText (h : Text.isDigitText t = true) :
    sign (t.dropWhile isMargin) = (false, t) := by
  obtain ⟨hne, hall⟩ := Text.isDigitText_iff.1 h
  obtain ⟨c, t, rfl⟩ := List.exists_cons_of_ne_nil hne
  have hc : Text.isDigitLike c = true := hall c List.mem_cons_self
  rw [List.dropWhile_cons_of_neg (by simp [isMargin_of_isDigitLike hc]), sign.eq_def]
  split
  · next heq =>
    rw [(List.cons.inj heq).1] at hc
    exact absurd hc (by decide)
  · next heq =>
    rw [(List.cons.inj heq).1] at hc
    exact absurd hc (by decide)
  · rfl

/-- A text of digit characters is a numeral if all of them are decimal digits and not too many. -/
theorem exists_read_iff_of_isDigitText (h : Text.isDigitText t = true) :
    (∃ n, read t = .ok n) ↔ (∀ c ∈ t, Text.isDecimal c = true) ∧ t.length ≤ maxDigits := by
  obtain ⟨hne, hall⟩ := Text.isDigitText_iff.1 h
  simp only [read, sign_of_isDigitText h, digitRun_of_isDigitText h]
  by_cases hdecimal : ∀ c ∈ t, Text.isDecimal c = true
  · have hunderscore : '_' ∉ t := fun hmem => absurd (hall '_' hmem) (by decide)
    have hread : ¬(t = [] ∨ separatorsOk t = false) := by
      simp [hne, separatorsOk_of_not_mem hunderscore]
    rw [List.takeWhile_eq_self_iff.2 hdecimal, List.dropWhile_eq_nil_iff.2 hdecimal,
      filter_of_not_mem hunderscore, if_neg hread, ofDecimals?, and_iff_right hdecimal]
    by_cases hlong : maxDigits < t.length
    · simp [hlong]
    · simp [hlong, Nat.le_of_not_lt hlong]
  · refine ⟨?_, fun hboth => absurd hboth.1 hdecimal⟩
    rintro ⟨n, hn⟩
    rw [← List.dropWhile_eq_nil_iff] at hdecimal
    obtain ⟨c, rest, hrest⟩ := List.exists_cons_of_ne_nil hdecimal
    have hmem : c ∈ t := (List.dropWhile_sublist Text.isDecimal).mem (by simp [hrest])
    -- the character behind the decimal digits is no margin
    rw [hrest, List.all_cons, isMargin_of_isDigitLike (hall c hmem), Bool.false_and] at hn
    split at hn
    · cases hn
    · split at hn
      · cases hn
      · cases hn

theorem kind_of_read_eq_error {p : Problem} (h : read t = .error p) : p.kind = "ValueError" := by
  simp only [read] at h
  split at h
  · cases h
    rfl
  · split at h
    · next hdecimals =>
      cases h
      rw [ofDecimals?] at hdecimals
      split at hdecimals
      · cases hdecimals
        rfl
      · cases hdecimals
    · split at h
      · cases h
      · cases h
        rfl

end Numeral

end ChangeFeed
