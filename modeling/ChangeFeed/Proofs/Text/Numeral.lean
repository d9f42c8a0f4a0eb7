import ChangeFeed.Proofs.Text.Scan

/-!
# Numbers in texts are read back

The decimal text of a whole number starts with a digit or a minus sign, and goes on with digits. So
nothing is stripped from it, and what it stands for is that number, unless it has more than
`Numeral.maxDigits` digits (`read_ofInt`).
-/

namespace ChangeFeed

namespace Text

theorem isAsciiDigit_of_isDigit {c : Char} (h : c.isDigit = true) : isAsciiDigit c = true := by
  simpa [Char.isDigit, isAsciiDigit, Char.le_def, UInt32.le_iff_toNat_le] using h

theorem exists_ofNat_eq_cons (n : Nat) :
    ∃ c t, ofNat n = c :: t ∧ ∀ x : Char, x.isDigit = false → c ≠ x := by
  obtain ⟨c, t, ht⟩ := List.exists_cons_of_ne_nil (ofNat_ne_nil n)
  have hc : c.isDigit = true := isDigit_of_mem_ofNat (n := n) (by rw [ht]; exact List.mem_cons_self)
  refine ⟨c, t, ht, fun x hx => ?_⟩
  rintro rfl
  exact absurd hc (by simp [hx])

theorem exists_ofInt_eq_cons (i : Int) :
    ∃ c t, ofInt i = c :: t ∧ ∀ x : Char, x.isDigit = false → x ≠ '-' → c ≠ x := by
  cases i with
  | ofNat n =>
    obtain ⟨c, t, ht, hc⟩ := exists_ofNat_eq_cons n
    exact ⟨c, t, ht, fun x hx _ => hc x hx⟩
  | negSucc n => exact ⟨'-', ofNat (n + 1), rfl, fun x _ hx => hx.symm⟩

theorem mem_ofInt {i : Int} {c : Char} (h : c ∈ ofInt i) : c = '-' ∨ c.isDigit = true := by
  cases i with
  | ofNat n => exact .inr (isDigit_of_mem_ofNat h)
  | negSucc n => exact (List.mem_cons.1 h).imp_right isDigit_of_mem_ofNat

theorem not_mem_ofInt {c : Char} (hm : c ≠ '-') (hd : c.isDigit = false) (i : Int) :
    c ∉ ofInt i := by
  intro h
  rcases mem_ofInt h with rfl | hc
  · exact hm rfl
  · exact absurd hc (by simp [hd])

theorem ofInt_ne_nil (i : Int) : ofInt i ≠ [] := by
  obtain ⟨c, t, ht, -⟩ := exists_ofInt_eq_cons i
  rw [ht]
  exact List.cons_ne_nil c t

end Text

namespace Numeral

open Text

theorem length_ofNat_le_iff {n k : Nat} (hk : 0 < k) :
    (ofNat n).length ≤ k ↔ n < Nat.pow 10 k :=
  Nat.length_toDigits_le_iff (by omega) hk

theorem fits_iff {i : Int} : fits i = true ↔ (ofNat i.natAbs).length ≤ maxDigits := by
  rw [fits, decide_eq_true_eq, length_ofNat_le_iff (by decide)]

theorem ofDecimals?_natAbs {i : Int} (hi : fits i = true) :
    ofDecimals? (ofNat i.natAbs) = .ok i.natAbs := ofDecimals?_ofNat (fits_iff.1 hi)

theorem ofDecimals?_natAbs_of_not_fits {i : Int} (hi : ¬fits i = true) :
    ofDecimals? (ofNat i.natAbs) = .error (.tooLong (ofNat i.natAbs).length) :=
  if_pos (Nat.lt_of_not_le fun h => hi (fits_iff.2 h))

theorem isMargin_of_isDigit {c : Char} (h : c.isDigit = true) : isMargin c = false := by
  have hn : 48 ≤ c.toNat ∧ c.toNat ≤ 57 := by
    simpa [Char.isDigit, UInt32.le_iff_toNat_le] using h
  have hb : isBlank c = false := by
    simp only [isBlank, if_pos (show c.toNat < 128 by omega), Bool.or_eq_false_iff,
      beq_eq_false_iff_ne, Bool.and_eq_false_iff, decide_eq_false_iff_not]
    omega
  simp [isMargin, hb]

theorem sign_ofInt (i : Int) :
    sign ((ofInt i).dropWhile isMargin) = (decide (i < 0), ofNat i.natAbs) := by
  cases i with
  | ofNat n =>
    obtain ⟨c, t, ht, hc⟩ := exists_ofNat_eq_cons n
    have hd : isMargin c = false :=
      isMargin_of_isDigit (isDigit_of_mem_ofNat (n := n) (by simp [ht]))
    have hm : c ≠ '-' := hc '-' rfl
    have hp : c ≠ '+' := hc '+' rfl
    have hn : ¬(Int.ofNat n < 0) := by simp
    rw [ofInt, ht, List.dropWhile_cons_of_neg (by simp [hd]), sign.eq_def, decide_eq_false hn]
    split
    · next heq => exact absurd (List.cons.inj heq).1 hm
    · next heq => exact absurd (List.cons.inj heq).1 hp
    · exact congrArg (Prod.mk false) ht.symm
  | negSucc n =>
    have hn : Int.negSucc n < 0 := Int.negSucc_lt_zero n
    rw [decide_eq_true hn]
    rfl

theorem digitRun_ofNat (n : Nat) : digitRun (ofNat n) = (ofNat n, []) := by
  refine span_eq_iff.2 ⟨(List.append_nil _).symm, fun c hc => ?_, by simp⟩
  rw [isDecimal_of_mem_ofNat hc, Bool.true_or]

theorem separatorsOk_of_not_mem {t : Text} (h : '_' ∉ t) : separatorsOk t = true := by
  have hgo : ∀ (u : Text) (p : Char), p ≠ '_' → '_' ∉ u → separatorsOk.go p u = true := by
    intro u
    induction u with
    | nil => intro p hp _; simpa [separatorsOk.go] using hp
    | cons c u ih =>
      intro p hp hu
      rw [List.mem_cons, not_or] at hu
      simp [separatorsOk.go, hp, ih c (Ne.symm hu.1) hu.2]
  cases t with
  | nil => rfl
  | cons c t =>
    rw [List.mem_cons, not_or] at h
    simp [separatorsOk, Ne.symm h.1, hgo t c (Ne.symm h.1) h.2]

theorem filter_of_not_mem {t : Text} (h : '_' ∉ t) : t.filter (· != '_') = t := by
  refine List.filter_eq_self.2 fun c hc => ?_
  rw [bne_iff_ne]
  rintro rfl
  exact h hc

/-- A number is read back from its decimal text, unless it has too many digits. -/
theorem read_ofInt (i : Int) :
    read (ofInt i) = if fits i then .ok i else .error (.tooLong (ofNat i.natAbs).length) := by
  have hu : '_' ∉ ofNat i.natAbs := fun h => absurd (isDigit_of_mem_ofNat h) (by decide)
  have hd : ¬(ofNat i.natAbs = [] ∨ separatorsOk (ofNat i.natAbs) = false) := by
    simp [ofNat_ne_nil, separatorsOk_of_not_mem hu]
  rw [read]
  simp only [sign_ofInt, digitRun_ofNat, filter_of_not_mem hu, if_neg hd]
  by_cases hi : fits i = true
  · have hsign : (if decide (i < 0) = true then -(i.natAbs : Int) else (i.natAbs : Int)) = i := by
      simp only [decide_eq_true_eq]
      split <;> omega
    rw [if_pos hi, ofDecimals?_natAbs hi]
    simp only [List.all_nil, if_true, hsign]
  · rw [if_neg hi, ofDecimals?_natAbs_of_not_fits hi]

end Numeral

end ChangeFeed
