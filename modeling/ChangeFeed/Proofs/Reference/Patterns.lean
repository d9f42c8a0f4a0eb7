import ChangeFeed.Proofs.Reference.Words
import ChangeFeed.Proofs.Text.Scan

/-!
# Scanning as a search for patterns

What a scanner looks for, written as patterns: a run of word characters and a parenthesis, and an
angle bracket, a capital and a run of word characters. A pattern takes as many characters as
possible, gives them back one by one if what follows does not match, and is searched for from left
to right, each time behind the match before. `scanLine_eq_search` says that a scan, which gives
nothing back, finds the same.

Where a run of word characters has no parenthesis behind it, no match starts in it
(`search?_callPattern`): giving characters back does not help, as none of them is a parenthesis.
-/

namespace ChangeFeed

namespace Scanner

open Text

/-- A part of a pattern: one character of a class, or as many of them as possible. -/
inductive Piece where
  | one (p : Char → Bool)
  | many (p : Char → Bool)

/-- Takes characters of a class, and gives the last one back as long as `next` finds nothing. -/
def takeMany {α : Type} (p : Char → Bool) (next : Text → Option α) : Text → Option α
  | [] => next []
  | c :: t => if p c then (takeMany p next t).or (next (c :: t)) else next (c :: t)

/-- Takes pieces from the start of a text and goes on with its rest. -/
def takePieces {α : Type} : List Piece → (Text → Option α) → Text → Option α
  | [], next, t => next t
  | .one _ :: _, _, [] => none
  | .one p :: ps, next, c :: t => if p c then takePieces ps next t else none
  | .many p :: ps, next, t => takeMany p (takePieces ps next) t

/-- How many characters pieces take at least. -/
def leastTaken : List Piece → Nat
  | [] => 0
  | .one _ :: ps => leastTaken ps + 1
  | .many _ :: ps => leastTaken ps

section Taking

variable {α : Type} {p : Char → Bool} {ps : List Piece} {next : Text → Option α} {t : Text} {a : α}

/-- Nothing is given back where that would not help. -/
theorem takeMany_of_none (h : ∀ c t, p c = true → next (c :: t) = none) :
    takeMany p next t = next (t.dropWhile p) := by
  induction t with
  | nil => rfl
  | cons c t ih =>
    rw [takeMany]
    split
    · next hc => rw [h c t hc, Option.or_none, ih, List.dropWhile_cons_of_pos hc]
    · next hc => rw [List.dropWhile_cons_of_neg hc]

theorem takeMany_of_isSome (h : (next (t.dropWhile p)).isSome = true) :
    takeMany p next t = next (t.dropWhile p) := by
  induction t with
  | nil => rfl
  | cons c t ih =>
    rw [takeMany]
    split
    · next hc =>
      rw [List.dropWhile_cons_of_pos hc] at h ⊢
      rw [ih h, Option.or_of_isSome h]
    · next hc => rw [List.dropWhile_cons_of_neg hc]

theorem exists_next_of_takeMany (h : takeMany p next t = some a) :
    ∃ rest, next rest = some a ∧ rest.length ≤ t.length := by
  induction t with
  | nil => exact ⟨[], h, Nat.le_refl _⟩
  | cons c t ih =>
    rw [takeMany] at h
    split at h
    · rcases Option.or_eq_some_iff.1 h with h | ⟨-, h⟩
      · obtain ⟨rest, hr, hl⟩ := ih h
        exact ⟨rest, hr, Nat.le_succ_of_le hl⟩
      · exact ⟨c :: t, h, Nat.le_refl _⟩
    · exact ⟨c :: t, h, Nat.le_refl _⟩

theorem exists_next_of_takePieces (h : takePieces ps next t = some a) :
    ∃ rest, next rest = some a ∧ rest.length + leastTaken ps ≤ t.length := by
  induction ps generalizing t with
  | nil => exact ⟨t, h, Nat.le_refl _⟩
  | cons piece ps ih =>
    cases piece with
    | one p =>
      cases t with
      | nil => cases h
      | cons c t =>
        rw [takePieces] at h
        split at h
        · obtain ⟨rest, hr, hl⟩ := ih h
          exact ⟨rest, hr, Nat.succ_le_succ hl⟩
        · cases h
    | many p =>
      obtain ⟨inner, hi, hl⟩ := exists_next_of_takeMany h
      obtain ⟨rest, hr, hl'⟩ := ih hi
      exact ⟨rest, hr, Nat.le_trans hl' hl⟩

end Taking

/-- A pattern with one group. It takes at least one character. -/
structure Pattern where
  front : List Piece
  group : List Piece
  back : List Piece
  takes : 0 < leastTaken front + leastTaken group + leastTaken back

/-- A run of word characters in front of an opening parenthesis. -/
def callPattern : Pattern := ⟨[], [.many isWord], [.one (· == '(')], by decide⟩

/-- A capital and the word characters behind it, behind an angle bracket. -/
def markupPattern : Pattern := ⟨[.one (· == '<')], [.one isAsciiUpper, .many isWord], [], by decide⟩

theorem take_length_sub (front rest : Text) :
    (front ++ rest).take ((front ++ rest).length - rest.length) = front := by
  rw [List.length_append, Nat.add_sub_cancel, List.take_left]

namespace Pattern

variable {e : Pattern} {t t' : Text} {m : Text × Text}

/-- The match at the start of a text: what the group takes, and what is left behind the match. -/
def match? (e : Pattern) (t : Text) : Option (Text × Text) :=
  takePieces e.front (fun inner => takePieces e.group (fun outer => takePieces e.back
    (fun rest => some (inner.take (inner.length - outer.length), rest)) outer) inner) t

/-- The leftmost match in a text. -/
def search? (e : Pattern) : Text → Option (Text × Text)
  | [] => e.match? []
  | c :: t => (e.match? (c :: t)).or (e.search? t)

theorem length_lt_of_match? (h : e.match? t = some m) : m.2.length < t.length := by
  obtain ⟨inner, hi, hl⟩ := exists_next_of_takePieces h
  obtain ⟨outer, ho, hl'⟩ := exists_next_of_takePieces hi
  obtain ⟨rest, hr, hl''⟩ := exists_next_of_takePieces ho
  have htakes := e.takes
  cases hr
  change rest.length < t.length
  omega

theorem length_lt_of_search? (h : e.search? t = some m) : m.2.length < t.length := by
  induction t with
  | nil => exact length_lt_of_match? h
  | cons c t ih =>
    rcases Option.or_eq_some_iff.1 h with h | ⟨-, h⟩
    · exact length_lt_of_match? h
    · exact Nat.lt_succ_of_lt (ih h)

/-- The groups of all matches in a text, each of which starts behind the one before. -/
def findAll (e : Pattern) (t : Text) : List Text :=
  match _h : e.search? t with
  | none => []
  | some m => m.1 :: findAll e m.2
termination_by t.length
decreasing_by exact length_lt_of_search? _h

theorem search?_of_match? (h : e.match? t = some m) : e.search? t = some m := by
  cases t with
  | nil => exact h
  | cons c t => rw [search?, h, Option.some_or]

theorem search?_cons_of_none {c : Char} (h : e.match? (c :: t) = none) :
    e.search? (c :: t) = e.search? t := by
  rw [search?, h, Option.none_or]

theorem findAll_of_search?_none (h : e.search? t = none) : e.findAll t = [] := by
  rw [findAll]
  split
  · rfl
  · next hm => rw [h] at hm; cases hm

theorem findAll_of_search?_some (h : e.search? t = some m) :
    e.findAll t = m.1 :: e.findAll m.2 := by
  rw [findAll]
  split
  · next hm => rw [h] at hm; cases hm
  · next hm => rw [h] at hm; cases hm; rfl

theorem findAll_congr (h : e.search? t = e.search? t') : e.findAll t = e.findAll t' := by
  cases hm : e.search? t' with
  | none => rw [findAll_of_search?_none (h.trans hm), findAll_of_search?_none hm]
  | some m => rw [findAll_of_search?_some (h.trans hm), findAll_of_search?_some hm]

end Pattern

/-! ### Calls -/

variable {t word rest : Text} {c : Char}

/-- At the start of a text, the parenthesis of a call is looked for behind all word characters. -/
theorem match?_callPattern (hw : IsWordRun word) (ht : ∀ c ∈ t.head?, isWord c = false) :
    callPattern.match? (word ++ t) =
      takePieces [.one (· == '(')] (fun rest => some (word, rest)) t := by
  have hnone : ∀ c u, isWord c = true → takePieces [.one (· == '(')] (fun rest =>
      some ((word ++ t).take ((word ++ t).length - (c :: u).length), rest)) (c :: u) = none := by
    intro c u hc
    refine if_neg fun h => ?_
    cases beq_iff_eq.1 h
    exact not_isWord_parenthesis hc
  have hrest : (word ++ t).dropWhile isWord = t := by
    have hspan := span_eq_iff.2 ⟨rfl, hw, ht⟩
    rw [List.span_eq_takeWhile_dropWhile] at hspan
    exact (Prod.mk.inj hspan).2
  refine (takeMany_of_none hnone).trans ?_
  rw [hrest]
  exact congrArg (fun word => takePieces _ (fun rest => some (word, rest)) t)
    (take_length_sub word t)

theorem findAll_callPattern_cons_parenthesis (hw : IsWordRun word) :
    callPattern.findAll (word ++ '(' :: t) = word :: callPattern.findAll t := by
  have hm : callPattern.match? (word ++ '(' :: t) = some (word, t) :=
    match?_callPattern hw fun c hc => by cases hc; decide
  exact Pattern.findAll_of_search?_some (Pattern.search?_of_match? hm)

/-- No call starts in a run of word characters that is not in front of a parenthesis. -/
theorem search?_callPattern (hw : IsWordRun word) (ht : ∀ c ∈ t.head?, isWord c = false ∧ c ≠ '(') :
    callPattern.search? (word ++ t) = callPattern.search? t.tail := by
  have hmatch : ∀ word, IsWordRun word → callPattern.match? (word ++ t) = none := by
    intro word hw
    rw [match?_callPattern hw fun c hc => (ht c hc).1]
    cases t with
    | nil => rfl
    | cons c t => exact if_neg (mt beq_iff_eq.1 (ht c rfl).2)
  induction word with
  | nil =>
    cases t with
    | nil => rfl
    | cons c t => exact Pattern.search?_cons_of_none (hmatch [] hw)
  | cons d word ih =>
    exact (Pattern.search?_cons_of_none (hmatch _ hw)).trans (ih (List.forall_mem_cons.1 hw).2)

theorem findAll_callPattern_of_isWordRun (hw : IsWordRun word) : callPattern.findAll word = [] := by
  have hs := search?_callPattern (t := []) hw (by simp)
  rw [List.append_nil] at hs
  exact Pattern.findAll_of_search?_none hs

theorem findAll_callPattern_cons (hw : IsWordRun word) (hc : isWord c = false) (hne : c ≠ '(') :
    callPattern.findAll (word ++ c :: t) = callPattern.findAll t :=
  Pattern.findAll_congr (search?_callPattern (t := c :: t) hw fun d hd => by
    cases hd
    exact ⟨hc, hne⟩)

theorem callsFrom_append (hw : IsWordRun word) (read t : Text) :
    callsFrom read (word ++ t) = callsFrom (word.reverse ++ read) t := by
  induction word generalizing read with
  | nil => rfl
  | cons c word ih =>
    obtain ⟨hc, hw⟩ := List.forall_mem_cons.1 hw
    rw [List.cons_append, callsFrom, if_pos hc, ih hw, List.reverse_cons, List.append_assoc]
    rfl

theorem calls_eq_findAll (t : Text) : calls t = callPattern.findAll t := by
  induction h : t.length using Nat.strong_induction_on generalizing t with
  | _ n ih =>
    subst h
    obtain ⟨word, back, rfl, hw, hb⟩ :
        ∃ word back, t = word ++ back ∧ IsWordRun word ∧ ∀ c ∈ back.head?, isWord c = false :=
      ⟨_, _, span_eq_iff.1 rfl⟩
    rw [calls, callsFrom_append hw, List.append_nil]
    cases back with
    | nil =>
      rw [List.append_nil, findAll_callPattern_of_isWordRun hw]
      rfl
    | cons c rest =>
      have hc : isWord c = false := hb c rfl
      have hlt : rest.length < (word ++ c :: rest).length := by simp; omega
      have hrest : callsFrom [] rest = callPattern.findAll rest := ih _ hlt rest rfl
      rw [callsFrom, if_neg (by simp [hc]), hrest]
      split
      · next hp =>
        subst hp
        rw [findAll_callPattern_cons_parenthesis hw, List.reverse_reverse]
      · next hp => exact (findAll_callPattern_cons hw hc hp).symm

/-! ### Components -/

theorem match?_markupPattern (hc : isAsciiUpper c = true) (t : Text) :
    markupPattern.match? ('<' :: c :: t) =
      some (c :: t.takeWhile isWord, t.dropWhile isWord) := by
  let next (rest : Text) := some ((c :: t).take ((c :: t).length - rest.length), rest)
  have htake := take_length_sub (c :: t.takeWhile isWord) (t.dropWhile isWord)
  rw [List.cons_append, List.takeWhile_append_dropWhile] at htake
  have hnext : next (t.dropWhile isWord) = some (c :: t.takeWhile isWord, t.dropWhile isWord) :=
    congrArg (fun word => some (word, t.dropWhile isWord)) htake
  have hword : takeMany isWord next t = next (t.dropWhile isWord) := takeMany_of_isSome rfl
  exact (if_pos hc).trans (hword.trans hnext)

theorem match?_markupPattern_of_not_isAsciiUpper (hc : ¬ isAsciiUpper c = true) (t : Text) :
    markupPattern.match? ('<' :: c :: t) = none := if_neg hc

theorem match?_markupPattern_of_ne (h : ∀ d rest, c = '<' → t = d :: rest → False) :
    markupPattern.match? (c :: t) = none := by
  by_cases hc : c = '<'
  · cases t with
    | nil => subst hc; rfl
    | cons d rest => exact (h d rest hc rfl).elim
  · exact if_neg (mt beq_iff_eq.1 hc)

theorem component?_eq_search? (t : Text) :
    component? t = (markupPattern.search? t).map Prod.fst := by
  induction t using component?.induct with
  | case1 c t hc =>
    rw [component?, if_pos hc, Pattern.search?_of_match? (match?_markupPattern hc t)]
    rfl
  | case2 c t hc ih =>
    have hm := match?_markupPattern_of_not_isAsciiUpper hc t
    rw [component?, if_neg hc, ih, Pattern.search?_cons_of_none hm]
  | case3 c t hne ih =>
    rw [component?, ih, Pattern.search?_cons_of_none (match?_markupPattern_of_ne hne)]
    exact hne
  | case4 => rfl

/-- A scan of a line is a search for the two patterns: for all calls, and for the first
component. -/
theorem scanLine_eq_search (s : Scanner) (t : Text) :
    s.scanLine t = ((callPattern.findAll t).filter s.keeps).map (·, .call) ++
      (if s.markup then ((markupPattern.search? t).map Prod.fst).toList.filter s.keeps else []).map
        (·, .markup) := by
  rw [scanLine, calls_eq_findAll, component?_eq_search?]

end Scanner

end ChangeFeed
