/-!
Texts and the cuts made in them.

A text is the list of its characters, so lengths, positions and orders count characters. A cut
returns the pieces beside the place where it was made; the lemmas say that nothing else is lost.
-/

namespace ChangeFeed

/-- A text is the list of its characters. -/
abbrev Text := List Char

instance : Coe String Text := ⟨String.toList⟩

namespace Text

/-- What follows `start` in a text that starts with it. -/
def rest? : Text → Text → Option Text
  | [], t => some t
  | _ :: _, [] => none
  | s :: ss, c :: t => if s = c then rest? ss t else none

theorem rest?_eq_some_iff {s t r : Text} : rest? s t = some r ↔ t = s ++ r := by
  induction s generalizing t with
  | nil => simp [rest?, eq_comm]
  | cons s ss ih =>
    cases t with
    | nil => simp [rest?]
    | cons c t =>
      by_cases h : s = c
      · simp [rest?, h, ih]
      · simp [rest?, h, Ne.symm h]

/-- Whether a text starts with `start`. -/
def startsWith (start t : Text) : Bool := (rest? start t).isSome

/-- Whether a text ends with `stop`. -/
def endsWith (stop t : Text) : Bool := startsWith stop.reverse t.reverse

/-- Cuts a text at the first `sep`, which belongs to neither piece. -/
def cut? (sep : Char) : Text → Option (Text × Text)
  | [] => none
  | c :: t => if c = sep then some ([], t) else (cut? sep t).map fun p => (c :: p.1, p.2)

theorem cut?_eq_some_iff {sep : Char} {t b a : Text} :
    cut? sep t = some (b, a) ↔ t = b ++ sep :: a ∧ sep ∉ b := by
  induction t generalizing b with
  | nil => simp [cut?]
  | cons c t ih =>
    by_cases h : c = sep
    · subst h
      cases b <;> simp [cut?]
      grind
    · cases b with
      | nil => simp [cut?, h]
      | cons d b =>
        simp only [cut?, h, if_false, Option.map_eq_some_iff, Prod.mk.injEq, List.cons.injEq,
          Prod.exists, List.cons_append, List.mem_cons, not_or]
        constructor
        · rintro ⟨b', a', hc, ⟨rfl, rfl⟩, rfl⟩
          exact ⟨⟨rfl, (ih.1 hc).1⟩, Ne.symm h, (ih.1 hc).2⟩
        · rintro ⟨⟨rfl, ht⟩, -, hb⟩
          exact ⟨b, a, ih.2 ⟨ht, hb⟩, ⟨rfl, rfl⟩, rfl⟩

/-- Cuts a text at the last `sep`, which belongs to neither piece. -/
def cutLast? (sep : Char) : Text → Option (Text × Text)
  | [] => none
  | c :: t =>
    match cutLast? sep t with
    | some (b, a) => some (c :: b, a)
    | none => if c = sep then some ([], t) else none

theorem cutLast?_eq_none_iff {sep : Char} {t : Text} : cutLast? sep t = none ↔ sep ∉ t := by
  induction t with
  | nil => simp [cutLast?]
  | cons c t ih =>
    rw [cutLast?]
    cases h : cutLast? sep t with
    | none => simp [ih.1 h, eq_comm]
    | some p => grind

theorem cutLast?_eq_some_iff {sep : Char} {t b a : Text} :
    cutLast? sep t = some (b, a) ↔ t = b ++ sep :: a ∧ sep ∉ a := by
  induction t generalizing b a with
  | nil => simp [cutLast?]
  | cons c t ih =>
    rw [cutLast?]
    cases h : cutLast? sep t with
    | none =>
      have hn := cutLast?_eq_none_iff.1 h
      cases b <;> by_cases hc : c = sep <;> simp [hc] <;> grind
    | some p =>
      obtain ⟨b', a'⟩ := p
      have ht := ih.1 h
      cases b with
      | nil => grind
      | cons d b => grind

/-- Cuts a text around the first occurrence of `part`. -/
def cutAround? (part : Text) : Text → Option (Text × Text)
  | [] => if part = [] then some ([], []) else none
  | c :: t =>
    match rest? part (c :: t) with
    | some r => some ([], r)
    | none => (cutAround? part t).map fun p => (c :: p.1, p.2)

/-- Drops the longest end of a text whose characters satisfy `p`. -/
def dropEndWhile (p : Char → Bool) (t : Text) : Text := (t.reverse.dropWhile p).reverse

/-- The pieces put one after another, with `sep` between two neighbours. -/
def join (sep : Text) (ts : List Text) : Text := sep.intercalate ts

/-- Each occurrence of the character `old` becomes the text `new`. -/
def replaceChar (old : Char) (new : Text) (t : Text) : Text :=
  t.flatMap fun c => if c = old then new else [c]

/-- Repeats a character. -/
def fill (n : Nat) (c : Char) : Text := List.replicate n c

/-- The decimal digits of a natural number. -/
def ofNat (n : Nat) : Text := Nat.toDigits 10 n

/-- The decimal digits of an integer, after a minus sign if it is negative. -/
def ofInt : Int → Text
  | .ofNat n => ofNat n
  | .negSucc n => '-' :: ofNat (n + 1)

/-- The lower-case hexadecimal digits of a natural number. -/
def ofHex (n : Nat) : Text := Nat.toDigits 16 n

/-- The lower-case hexadecimal digits, filled up with zeros on the left to `width`. -/
def ofHexPadded (width n : Nat) : Text :=
  let ds := ofHex n
  fill (width - ds.length) '0' ++ ds

/-- Whether a text comes before another one or is the same, by the first code point that differs. -/
def le : Text → Text → Bool
  | [], _ => true
  | _ :: _, [] => false
  | a :: s, b :: t => if a = b then le s t else decide (a.toNat < b.toNat)

/-- Texts in order. -/
def sorted (ts : List Text) : List Text := ts.mergeSort le

end Text

end ChangeFeed
