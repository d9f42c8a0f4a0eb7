import ChangeFeed.Proofs.Reference.Words
import Mathlib.Data.List.DropRight
import Mathlib.Data.List.Infix

/-!
# The candidates in a line

Where a line has names, without a scan: the name of a call ends in front of an opening parenthesis,
and the name of a component starts behind the first angle bracket with a capital behind it. Both are
as long as they can be (`eq_lastWord_iff`, `eq_firstWord_iff`). `scanLine_eq_candidates` says that a
scan finds these and nothing else.

A scan of calls carries the word that is being read, backwards. It is the last word of what stands
before (`callsFrom_reverse_lastWord`), so what it is when a parenthesis comes is the longest.
-/

namespace ChangeFeed

namespace Scanner

open Text

variable {t front word name : Text} {c : Char}

/-! ### Words at an end -/

/-- The longest run of word characters that ends a text. -/
def lastWord (t : Text) : Text := t.rtakeWhile isWord

/-- The longest run of word characters that starts a text. -/
def firstWord (t : Text) : Text := t.takeWhile isWord

theorem lastWord_append_of_isWordRun (h : IsWordRun word) :
    lastWord (front ++ word) = lastWord front ++ word := by
  have hr : ∀ c ∈ word.reverse, isWord c = true := fun c hc => h c (List.mem_reverse.1 hc)
  rw [lastWord, List.rtakeWhile, List.reverse_append, List.takeWhile_append_of_pos hr,
    List.reverse_append, List.reverse_reverse]
  rfl

theorem lastWord_concat_of_isWord (hc : isWord c = true) :
    lastWord (t ++ [c]) = lastWord t ++ [c] := List.rtakeWhile_concat_pos isWord t c hc

theorem lastWord_concat_of_not_isWord (hc : ¬ isWord c = true) :
    lastWord (t ++ [c]) = [] := List.rtakeWhile_concat_neg isWord t c hc

theorem eq_lastWord_iff : name = lastWord t ↔ name <:+ t ∧ IsWordRun name ∧
    ∀ word, word <:+ t → IsWordRun word → word <:+ name := by
  have hends : lastWord t <:+ t := List.rtakeWhile_suffix isWord t
  have hrun : IsWordRun (lastWord t) := fun c hc => List.mem_rtakeWhile_imp hc
  have hlongest : ∀ word, word <:+ t → IsWordRun word → word <:+ lastWord t := by
    rintro word ⟨front, rfl⟩ hw
    exact ⟨lastWord front, (lastWord_append_of_isWordRun hw).symm⟩
  constructor
  · rintro rfl
    exact ⟨hends, hrun, hlongest⟩
  · rintro ⟨he, hr, hl⟩
    exact (hlongest name he hr).eq_of_length_le (hl _ hends hrun).length_le

theorem eq_firstWord_iff : name = firstWord t ↔ name <+: t ∧ IsWordRun name ∧
    ∀ word, word <+: t → IsWordRun word → word <+: name := by
  have hstarts : firstWord t <+: t := List.takeWhile_prefix isWord
  have hrun : IsWordRun (firstWord t) := fun c hc => List.mem_takeWhile_imp hc
  have hlongest : ∀ word, word <+: t → IsWordRun word → word <+: firstWord t := by
    rintro word ⟨rest, rfl⟩ hw
    exact ⟨firstWord rest, (List.takeWhile_append_of_pos hw).symm⟩
  constructor
  · rintro rfl
    exact ⟨hstarts, hrun, hlongest⟩
  · rintro ⟨hs, hr, hl⟩
    exact (hlongest name hs hr).eq_of_length_le (hl _ hstarts hrun).length_le

/-! ### Places in a text -/

/-- The places in a text where its rest has a property, from left to right. -/
def places (p : Text → Bool) (t : Text) : List Nat :=
  (List.range t.length).filter fun i => p (t.drop i)

variable {p : Text → Bool}

theorem places_cons_of_pos (h : p (c :: t) = true) :
    places p (c :: t) = 0 :: (places p t).map (· + 1) := by
  rw [places, List.length_cons, List.range_succ_eq_map, List.filter_cons, List.drop_zero, if_pos h,
    List.filter_map]
  rfl

theorem places_cons_of_neg (h : ¬ p (c :: t) = true) :
    places p (c :: t) = (places p t).map (· + 1) := by
  rw [places, List.length_cons, List.range_succ_eq_map, List.filter_cons, List.drop_zero, if_neg h,
    List.filter_map]
  rfl

/-- The rest of a text starts with an opening parenthesis. -/
def opensCall (t : Text) : Bool := t.head? == some '('

/-- The rest of a text starts with an angle bracket and a capital. -/
def opensMarkup : Text → Bool
  | '<' :: c :: _ => isAsciiUpper c
  | _ => false

theorem opensCall_cons_iff : opensCall (c :: t) = true ↔ c = '(' := by simp [opensCall]

theorem opensMarkup_iff :
    opensMarkup t = true ↔ ∃ c rest, t = '<' :: c :: rest ∧ isAsciiUpper c = true := by
  constructor
  · intro h
    unfold opensMarkup at h
    split at h
    · next c rest => exact ⟨c, rest, rfl, h⟩
    · cases h
  · rintro ⟨c, rest, rfl, hc⟩
    exact hc

/-- The longest words that end in front of the opening parentheses of a text. -/
def wordsBefore (t : Text) : List Text := (places opensCall t).map fun i => lastWord (t.take i)

/-- The longest word behind the first angle bracket of a text with a capital behind it. -/
def wordBehind? (t : Text) : Option Text :=
  (places opensMarkup t).head?.map fun i => firstWord (t.drop (i + 1))

/-! ### What a scan finds there -/

/-- Behind `front`, calls are read with the last word of it in hand. -/
theorem callsFrom_reverse_lastWord (front t : Text) :
    callsFrom (lastWord front).reverse t =
      (places opensCall t).map fun i => lastWord (front ++ t.take i) := by
  induction t generalizing front with
  | nil => rfl
  | cons c t ih =>
    have ih := ih (front ++ [c])
    have hnext : ((places opensCall t).map (· + 1)).map
        (fun i => lastWord (front ++ (c :: t).take i)) =
          callsFrom (lastWord (front ++ [c])).reverse t := by
      rw [ih, List.map_map]
      exact List.map_congr_left fun i _ => by simp
    rw [callsFrom]
    split
    · next hc =>
      have hne : ¬ opensCall (c :: t) = true := fun h => by
        cases opensCall_cons_iff.1 h
        exact not_isWord_parenthesis hc
      rw [places_cons_of_neg hne, hnext, lastWord_concat_of_isWord hc, List.reverse_concat]
    · next hc =>
      rw [lastWord_concat_of_not_isWord hc] at hnext
      split
      · next h =>
        rw [places_cons_of_pos (opensCall_cons_iff.2 h), List.map_cons, hnext]
        simp
      · next h =>
        rw [places_cons_of_neg (mt opensCall_cons_iff.1 h), hnext]
        rfl

theorem calls_eq_wordsBefore (t : Text) : calls t = wordsBefore t :=
  callsFrom_reverse_lastWord [] t

theorem wordBehind?_cons_of_neg (h : ¬ opensMarkup (c :: t) = true) :
    wordBehind? (c :: t) = wordBehind? t := by
  rw [wordBehind?, places_cons_of_neg h, List.head?_map, Option.map_map]
  rfl

theorem component?_eq_wordBehind? (t : Text) : component? t = wordBehind? t := by
  induction t using component?.induct with
  | case1 c t hc =>
    have hm : opensMarkup ('<' :: c :: t) = true := hc
    rw [component?, if_pos hc, wordBehind?, places_cons_of_pos hm]
    exact congrArg some (List.takeWhile_cons_of_pos (isWord_of_isAsciiUpper hc)).symm
  | case2 c t hc ih =>
    have hm : ¬ opensMarkup ('<' :: c :: t) = true := hc
    rw [component?, if_neg hc, ih, wordBehind?_cons_of_neg hm]
  | case3 c t hne ih =>
    have hm : ¬ opensMarkup (c :: t) = true := fun h => by
      obtain ⟨d, rest, he, -⟩ := opensMarkup_iff.1 h
      cases he
      exact hne d rest rfl rfl
    rw [component?, ih, wordBehind?_cons_of_neg hm]
    exact hne
  | case4 => rfl

theorem ne_nil_of_wordBehind? (h : wordBehind? t = some name) : name ≠ [] := by
  obtain ⟨i, hi, rfl⟩ := Option.map_eq_some_iff.1 h
  obtain ⟨c, rest, he, hc⟩ := opensMarkup_iff.1 (List.mem_filter.1 (List.mem_of_head? hi)).2
  have hd : t.drop (i + 1) = c :: rest := by rw [← List.drop_drop, he]; rfl
  rw [hd, firstWord, List.takeWhile_cons_of_pos (isWord_of_isAsciiUpper hc)]
  exact List.cons_ne_nil _ _

/-- In any text, whatever is ignored, a scan finds the longest word in front of each opening
parenthesis, from left to right and if there is one, and then the word behind the first angle
bracket with a capital behind it. Of both it leaves out what is ignored, and there is nothing
else. -/
theorem scanLine_eq_candidates (ignore : List Text) (t : Text) :
    (⟨ignore, true⟩ : Scanner).scanLine t =
      ((wordsBefore t).filter fun name => name ≠ [] ∧ name ∉ ignore).map (·, .call) ++
        ((wordBehind? t).toList.filter (· ∉ ignore)).map (·, .markup) := by
  have hcall : ∀ name ∈ wordsBefore t, (⟨ignore, true⟩ : Scanner).keeps name =
      decide (name ≠ [] ∧ name ∉ ignore) := fun name _ => by
    rw [Bool.eq_iff_iff]
    simp [keeps]
  have hmarkup : ∀ name ∈ (wordBehind? t).toList, (⟨ignore, true⟩ : Scanner).keeps name =
      decide (name ∉ ignore) := fun name hn => by
    simp [keeps, ne_nil_of_wordBehind? (Option.mem_toList.1 hn)]
  rw [scanLine, calls_eq_wordsBefore, component?_eq_wordBehind?, if_pos rfl,
    List.filter_congr hcall, List.filter_congr hmarkup]

end Scanner

end ChangeFeed
