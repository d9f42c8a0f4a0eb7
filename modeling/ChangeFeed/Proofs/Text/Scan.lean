import ChangeFeed.Text.Blank
import ChangeFeed.Text.Lines
import ChangeFeed.Text.Numeral
import Mathlib.Data.List.TakeDrop
import Mathlib.Data.List.TakeWhile

/-!
# What the scanners of texts find

`span_eq_iff` says when a run at the start of a text is cut off where it should be,
`append_sep_inj` that a text is taken apart in one way at the first place of a character,
`cutAround?_isSome_iff` when a text can be cut around a part, `strip_cons_append_cons` that blanks
are stripped from the ends only, `dropReturn_append` that a line loses its carriage return at its
end only, and `ofDecimals?_ofNat` that a number is read back from its decimal digits.

`Lists p ts t` says what a text `t` with the tokens `ts` looks like: characters that satisfy `p`
stand between two tokens, at least one of them, and maybe also in front of the first token and
behind the last. Whatever separates them, the tokens are found again (`tokens_of_lists`).
-/

namespace ChangeFeed

namespace Text

variable {p : Char → Bool} {t front back : Text}

/-- The run at the start of a text is as long as it can be. -/
theorem span_eq_iff :
    t.span p = (front, back) ↔
      t = front ++ back ∧ (∀ c ∈ front, p c = true) ∧ ∀ c ∈ back.head?, p c = false := by
  rw [List.span_eq_takeWhile_dropWhile, Prod.mk.injEq]
  constructor
  · rintro ⟨rfl, rfl⟩
    refine ⟨List.takeWhile_append_dropWhile.symm, fun c hc => List.mem_takeWhile_imp hc, ?_⟩
    intro c hc
    have h := List.head?_dropWhile_not p t
    rwa [Option.mem_def.1 hc] at h
  · rintro ⟨rfl, hf, hb⟩
    rw [List.takeWhile_append_of_pos hf, List.dropWhile_append_of_pos hf]
    cases back with
    | nil => simp
    | cons c back =>
      have hc : p c = false := hb c rfl
      simp [hc]

theorem startsWith_iff {start : Text} : startsWith start t = true ↔ start <+: t := by
  rw [startsWith, Option.isSome_iff_exists]
  exact exists_congr fun r => rest?_eq_some_iff.trans eq_comm

theorem cutAround?_isSome_iff {part : Text} : (cutAround? part t).isSome = true ↔ part <:+: t := by
  induction t with
  | nil => by_cases hp : part = [] <;> simp [cutAround?, hp]
  | cons c t ih =>
    rw [cutAround?, List.infix_cons_iff, ← startsWith_iff, startsWith, ← ih]
    cases rest? part (c :: t) <;> simp

theorem cut?_of_not_mem {sep : Char} (h : sep ∉ t) : cut? sep t = none := by
  rw [Option.eq_none_iff_forall_not_mem]
  rintro ⟨b, a⟩ hc
  exact h (by simp [(cut?_eq_some_iff.1 hc).1])

theorem cut?_eq_none_iff {sep : Char} : cut? sep t = none ↔ sep ∉ t := by
  refine ⟨fun hnone hmem => ?_, cut?_of_not_mem⟩
  obtain ⟨b, a, rfl, hb⟩ := List.eq_append_cons_of_mem hmem
  rw [cut?_eq_some_iff.2 ⟨rfl, hb⟩] at hnone
  cases hnone

theorem append_sep_inj {sep : Char} {a b a' b' : Text} (h : sep ∉ a) (h' : sep ∉ a') :
    a ++ sep :: b = a' ++ sep :: b' ↔ a = a' ∧ b = b' := by
  constructor
  · intro he
    have hc : cut? sep (a ++ sep :: b) = some (a, b) := cut?_eq_some_iff.2 ⟨rfl, h⟩
    have hc' : cut? sep (a ++ sep :: b) = some (a', b') := cut?_eq_some_iff.2 ⟨he, h'⟩
    rw [hc] at hc'
    simpa using hc'
  · rintro ⟨rfl, rfl⟩
    rfl

/-! ### Ends -/

theorem dropEndWhile_of_getLast? (h : ∀ c ∈ t.getLast?, p c = false) : dropEndWhile p t = t := by
  rw [dropEndWhile, ← List.head?_reverse] at *
  cases hr : t.reverse with
  | nil => simpa using hr
  | cons c r =>
    rw [hr] at h
    rw [List.dropWhile_cons_of_neg (by simp [h c rfl]), ← hr, List.reverse_reverse]

theorem dropEndWhile_append_cons {c : Char} (h : p c = false) (t u : Text) :
    dropEndWhile p (t ++ c :: u) = t ++ c :: dropEndWhile p u := by
  have hrev : ∀ v : Text, (v ++ c :: t.reverse).dropWhile p = v.dropWhile p ++ c :: t.reverse := by
    intro v
    induction v with
    | nil => rw [List.nil_append, List.dropWhile_cons_of_neg (by simp [h])]; rfl
    | cons d v ih => by_cases hd : p d = true <;> simp [hd, ih]
  simp [dropEndWhile, hrev]

theorem exists_eq_stripEnd_append (t : Text) : ∃ u, t = stripEnd t ++ u := by
  refine ⟨(t.reverse.takeWhile isBlank).reverse, ?_⟩
  rw [stripEnd, dropEndWhile, ← List.reverse_append, List.takeWhile_append_dropWhile,
    List.reverse_reverse]

theorem strip_append_of_blank (h : ∀ c ∈ front, isBlank c = true) (t : Text) :
    strip (front ++ t) = strip t := by
  rw [strip, strip, stripStart, stripStart, List.dropWhile_append_of_pos h]

theorem stripEnd_of_blank (h : ∀ c ∈ t, isBlank c = true) : stripEnd t = [] := by
  rw [stripEnd, dropEndWhile,
    List.dropWhile_eq_nil_iff.2 fun c hc => h c (List.mem_reverse.1 hc), List.reverse_nil]

theorem strip_of_blank (h : ∀ c ∈ t, isBlank c = true) : strip t = [] := by
  rw [strip, stripStart, List.dropWhile_eq_nil_iff.2 h]
  rfl

theorem strip_cons_append_cons {c d : Char} (hc : isBlank c = false) (hd : isBlank d = false)
    (t u : Text) : strip (c :: (t ++ d :: u)) = c :: (t ++ d :: stripEnd u) := by
  have hstart : stripStart (c :: (t ++ d :: u)) = (c :: t) ++ d :: u :=
    List.dropWhile_cons_of_neg (by simp [hc])
  rw [strip, hstart, stripEnd, dropEndWhile_append_cons hd]
  rfl

theorem length_stripEnd_le (t : Text) : (stripEnd t).length ≤ t.length := by
  obtain ⟨u, hu⟩ := exists_eq_stripEnd_append t
  have hlength := congrArg List.length hu
  rw [List.length_append] at hlength
  omega

theorem length_strip_le (t : Text) : (strip t).length ≤ t.length :=
  Nat.le_trans (length_stripEnd_le _) (List.length_dropWhile_le _ _)

theorem stripEnd_append_singleton {c : Char} (hc : isBlank c = true) (t : Text) :
    stripEnd (t ++ [c]) = stripEnd t := by
  rw [stripEnd, dropEndWhile, List.reverse_append, List.reverse_singleton, List.singleton_append,
    List.dropWhile_cons_of_pos hc]
  rfl

theorem strip_append_space (h : strip t = t) : strip (t ++ [' ']) = t := by
  cases t with
  | nil => decide
  | cons c t =>
    have hc : isBlank c = false := by
      by_contra hblank
      have hstart : stripStart (c :: t) = stripStart t :=
        List.dropWhile_cons_of_pos (by simpa using hblank)
      have hlength := length_strip_le t
      rw [strip, ← hstart, ← strip, h] at hlength
      exact absurd hlength (Nat.not_succ_le_self _)
    have hstart : ∀ u, stripStart (c :: u) = c :: u := fun u =>
      List.dropWhile_cons_of_neg (by simp [hc])
    rw [strip, hstart] at h
    rw [strip, List.cons_append, hstart, ← List.cons_append,
      stripEnd_append_singleton (by decide), h]

/-! ### Tokens -/

/-- A text that separators do not cut: it has characters, and none of them is a separator. -/
def IsToken (p : Char → Bool) (t : Text) : Prop := t ≠ [] ∧ ∀ c ∈ t, p c = false

instance (p : Char → Bool) (t : Text) : Decidable (IsToken p t) :=
  have : Decidable (∀ c ∈ t, p c = false) := List.decidableBAll _ t
  inferInstanceAs (Decidable (_ ∧ _))

/-- The text has the tokens in order, and else nothing but separators. -/
inductive Lists (p : Char → Bool) : List Text → Text → Prop where
  | nil : Lists p [] []
  | sep {c : Char} {ts : List Text} {t : Text} : p c → Lists p ts t → Lists p ts (c :: t)
  | last {x : Text} : IsToken p x → Lists p [x] x
  | token {x : Text} {c : Char} {ts : List Text} {t : Text} :
      IsToken p x → p c → Lists p ts t → Lists p (x :: ts) (x ++ c :: t)

theorem tokens_append_cons {c : Char} (hc : p c) (t u : Text) :
    tokens p (t ++ c :: u) = tokens p t ++ tokens p u := by
  rw [tokens, List.splitOnP_append_cons t u hc, List.filter_append]
  rfl

theorem tokens_cons {c : Char} (hc : p c) (t : Text) : tokens p (c :: t) = tokens p t :=
  tokens_append_cons hc [] t

theorem tokens_of_isToken {x : Text} (h : IsToken p x) : tokens p x = [x] := by
  rw [tokens, List.splitOnP_eq_singleton fun c hc => by simp [h.2 c hc]]
  simp [h.1]

theorem tokens_of_lists {ts : List Text} {t : Text} (h : Lists p ts t) : tokens p t = ts := by
  induction h with
  | nil => rfl
  | sep hc _ ih => rw [tokens_cons hc, ih]
  | last hx => exact tokens_of_isToken hx
  | token hx hc _ ih => rw [tokens_append_cons hc, tokens_of_isToken hx, ih]; rfl

theorem lists_join {sep : Char} {ts : List Text} (hs : p sep) (h : ∀ t ∈ ts, IsToken p t) :
    Lists p ts (join [sep] ts) := by
  induction ts with
  | nil => exact .nil
  | cons t ts ih =>
    obtain ⟨ht, hts⟩ := List.forall_mem_cons.1 h
    cases ts with
    | nil =>
      rw [join, List.intercalate_singleton]
      exact .last ht
    | cons u ts =>
      have hjoin : join [sep] (t :: u :: ts) = t ++ sep :: join [sep] (u :: ts) := by
        simp [join, List.intercalate]
      rw [hjoin]
      exact .token ht hs (ih hts)

/-! ### Carriage returns -/

theorem dropReturn_of_getLast? (h : t.getLast? ≠ some '\r') : dropReturn t = t := if_neg h

theorem dropReturn_append (h : front.getLast? ≠ some '\r') (back : Text) :
    dropReturn (front ++ back) = front ++ dropReturn back := by
  by_cases hb : back = []
  · subst hb
    simp [dropReturn, h]
  · have hl : (front ++ back).getLast? = back.getLast? := by
      simp [List.getLast?_append, List.getLast?_eq_some_getLast hb]
    unfold dropReturn
    rw [hl]
    split
    · rw [List.dropLast_append_of_ne_nil hb]
    · rfl

theorem dropReturn_cons {c : Char} (h : c ≠ '\r') (t : Text) :
    dropReturn (c :: t) = c :: dropReturn t := by
  have hc : [c].getLast? ≠ some '\r' := by simpa using h
  exact dropReturn_append hc t

theorem exists_eq_dropReturn_append (line : Text) : ∃ r, line = dropReturn line ++ r := by
  unfold dropReturn
  split
  · exact ⟨line.drop (line.length - 1), by rw [List.dropLast_eq_take, List.take_append_drop]⟩
  · exact ⟨[], (List.append_nil _).symm⟩

theorem startsWith_dropReturn {start : Text} (h : start.getLast? ≠ some '\r') :
    startsWith start (dropReturn t) = startsWith start t := by
  rw [Bool.eq_iff_iff, startsWith_iff, startsWith_iff]
  constructor
  · intro hp
    obtain ⟨r, hr⟩ := exists_eq_dropReturn_append t
    rw [hr]
    exact hp.trans (List.prefix_append _ _)
  · rintro ⟨r, rfl⟩
    rw [dropReturn_append h]
    exact List.prefix_append _ _

/-! ### Decimal digits -/

theorem decimalValue?_of_isDigit {c : Char} (h : c.isDigit = true) :
    decimalValue? c = some (c.toNat - 48) := by
  have hn : 48 ≤ c.toNat ∧ c.toNat ≤ 57 := by
    simpa [Char.isDigit, UInt32.le_iff_toNat_le] using h
  have ha : isAsciiDigit c = true := by
    simpa [isAsciiDigit, Char.le_def, UInt32.le_iff_toNat_le] using hn
  simp [decimalValue?, ha, show c.toNat < 128 by omega]

theorem isDigit_of_mem_ofNat {n : Nat} {c : Char} (h : c ∈ ofNat n) : c.isDigit = true :=
  Nat.isDigit_of_mem_toDigits (by omega) (by omega) h

theorem isDecimal_of_mem_ofNat {n : Nat} {c : Char} (h : c ∈ ofNat n) : isDecimal c = true := by
  simp [isDecimal, decimalValue?_of_isDigit (isDigit_of_mem_ofNat h)]

theorem ofNat_ne_nil (n : Nat) : ofNat n ≠ [] := Nat.toDigits_ne_nil

theorem newline_not_mem_ofNat (n : Nat) : '\n' ∉ ofNat n := fun h =>
  absurd (isDigit_of_mem_ofNat h) (by decide)

end Text

namespace Numeral

theorem foldl_decimalValue {ds : Text} (h : ∀ c ∈ ds, c.isDigit = true) (n : Nat) :
    (ds.filterMap Text.decimalValue?).foldl (fun n d => 10 * n + d) n =
      Nat.ofDigitChars 10 ds n := by
  induction ds generalizing n with
  | nil => simp
  | cons c ds ih =>
    have hc := Text.decimalValue?_of_isDigit (h c (by simp))
    rw [List.filterMap_cons_some hc, List.foldl_cons, ih fun c hc => h c (by simp [hc]),
      Nat.ofDigitChars_cons]
    rfl

/-- A number is read back from its decimal digits, if these are not too many. -/
theorem ofDecimals?_ofNat {n : Nat} (h : (Text.ofNat n).length ≤ maxDigits) :
    ofDecimals? (Text.ofNat n) = .ok n := by
  have hn : ofDigits ((Text.ofNat n).filterMap Text.decimalValue?) = n := by
    rw [ofDigits, foldl_decimalValue fun c => Text.isDigit_of_mem_ofNat]
    exact Nat.ofDigitChars_ten_toDigits
  rw [ofDecimals?, if_neg (Nat.not_lt.2 h), hn]

end Numeral

end ChangeFeed
