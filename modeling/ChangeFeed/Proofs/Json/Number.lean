import ChangeFeed.Json.Reader
import ChangeFeed.Proofs.Text.Numeral

/-!
# Whole numbers are read back

A number is written without zeros in front (`head_ofNat`), so its first digit says whether there are
more. What follows a number must not go on with it: `Stops` is what can stand there. With at most
`Numeral.maxDigits` digits, a number is then read as what it is (`scanNumber_ofInt`).
-/

namespace ChangeFeed

namespace Text

theorem head_ofNat (n : Nat) : (ofNat n).head? = some '0' → n = 0 := by
  induction n using Nat.strongRecOn with
  | ind n ih =>
    rcases Nat.lt_or_ge n 10 with hn | hn
    · have hd : ∀ d < 10, d.digitChar = '0' → d = 0 := by decide
      rw [ofNat, Nat.toDigits_of_lt_base hn]
      exact fun h => hd n hn (Option.some.inj h)
    · -- the first digit of the number is that of its tenth
      have hs : ofNat n = ofNat (n / 10) ++ [(n % 10).digitChar] :=
        Nat.toDigits_of_base_le (by omega) hn
      intro h
      rw [hs, List.head?_append, Option.or_of_isSome (by simp [ofNat_ne_nil])] at h
      have := ih (n / 10) (by omega) h
      omega

end Text

namespace Json

variable {rest : Text} {n : Nat}

/-- What follows does not go on with a number. -/
def Stops (rest : Text) : Prop :=
  ∀ c ∈ rest.head?, Text.isAsciiDigit c = false ∧ c ≠ '.' ∧ c ≠ 'e' ∧ c ≠ 'E'

theorem stops_nil : Stops [] := by simp [Stops]

theorem scanFraction?_of_stops (h : Stops rest) : scanFraction? rest = none := by
  cases rest with
  | nil => rfl
  | cons c rest =>
    have hc : c ≠ '.' := (h c rfl).2.1
    rw [scanFraction?.eq_def]
    split
    · next heq => exact absurd (List.cons.inj heq).1 hc
    · rfl

theorem scanExponent?_of_stops (h : Stops rest) : scanExponent? rest = none := by
  cases rest with
  | nil => rfl
  | cons c rest =>
    have hc : ¬(c = 'e' ∨ c = 'E') := not_or.2 (h c rfl).2.2
    rw [scanExponent?.eq_def]
    exact if_neg hc

theorem scanWhole?_ofNat (n : Nat) (h : Stops rest) :
    scanWhole? (Text.ofNat n ++ rest) = some (Text.ofNat n, rest) := by
  obtain ⟨c, t, ht⟩ := List.exists_cons_of_ne_nil (Text.ofNat_ne_nil n)
  have hd : ∀ x ∈ Text.ofNat n, Text.isAsciiDigit x = true :=
    fun x hx => Text.isAsciiDigit_of_isDigit (Text.isDigit_of_mem_ofNat hx)
  by_cases hc : c = '0'
  · have hn : n = 0 := Text.head_ofNat n (by rw [ht, hc]; rfl)
    subst hn
    rfl
  · have hs : (Text.ofNat n ++ rest).span Text.isAsciiDigit = (Text.ofNat n, rest) :=
      Text.span_eq_iff.2 ⟨rfl, hd, fun x hx => (h x hx).1⟩
    rw [ht] at hd hs ⊢
    rw [List.cons_append, scanWhole?, if_neg hc, if_pos (hd c List.mem_cons_self)]
    exact congrArg some hs

theorem scanNumber_ofInt {i : Int} (hi : Numeral.fits i = true) (h : Stops rest) :
    scanNumber (Text.ofInt i ++ rest) = .ok (.int i, rest) := by
  have hf := scanFraction?_of_stops h
  have he := scanExponent?_of_stops h
  have hv := Numeral.ofDecimals?_natAbs hi
  have hw := scanWhole?_ofNat i.natAbs h
  rw [scanNumber.eq_def]
  cases i with
  | ofNat n =>
    simp only [Int.ofNat_eq_natCast, Int.natAbs_natCast] at hv hw
    -- the digits do not start with a minus sign
    have hm : ∀ u, Text.ofNat n ++ rest ≠ '-' :: u := by
      intro u hu
      rw [hu] at hw
      cases hw
    simp only [Text.ofInt, hw, hf, he, hv, Option.map_none, Option.getD_none]
    rfl
  | negSucc n =>
    simp only [Int.natAbs_negSucc, Nat.succ_eq_add_one] at hv hw
    simp only [Text.ofInt, List.cons_append, hw, hf, he, hv, Option.map_none, Option.getD_none]
    rfl

end Json

end ChangeFeed
