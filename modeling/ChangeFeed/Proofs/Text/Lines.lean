import ChangeFeed.Proofs.Text.Scan

/-!
# Cutting at every kind of line end

`IsUncut t` says that no character of `t` ends a line. Lines that are uncut and not empty are found
again between newlines (`universalLines_join_cons`); a text with a line end gives the text in front
of the first one as its first line (`universalLines_append_cons`).

With a carriage return in front of every newline, a text has the same lines for those who do not
look at the carriage returns at their ends (`map_splitLines_withReturns`), and the same lines that
are not empty for those who cut at every kind of line end (`filter_universalLines_withReturns`): a
carriage return that was there before then ends a line of its own. In the same way, the lines that
are not empty on both sides of a newline are all there are, also if the newline and a carriage
return in front of it are one line end (`filter_universalLines_append_newline`).
-/

namespace ChangeFeed.Text

/-- A text that is not cut: none of its characters ends a line. -/
def IsUncut (t : Text) : Prop := ∀ c ∈ t, isLineEnd c = false

instance (t : Text) : Decidable (IsUncut t) := List.decidableBAll _ t

/-- A text of ASCII characters without newlines and carriage returns. -/
def IsAsciiLine (t : Text) : Prop := ∀ c ∈ t, c.toNat < 0x80 ∧ c ≠ '\n' ∧ c ≠ '\r'

instance (t : Text) : Decidable (IsAsciiLine t) := List.decidableBAll _ t

variable {c : Char} {t u line : Text}

theorem isUncut_nil : IsUncut [] := by simp [IsUncut]

theorem isUncut_append : IsUncut (t ++ u) ↔ IsUncut t ∧ IsUncut u := List.forall_mem_append

theorem isUncut_cons : IsUncut (c :: t) ↔ isLineEnd c = false ∧ IsUncut t := List.forall_mem_cons

theorem isUncut_flatMap {α : Type} {f : α → Text} {l : List α} :
    IsUncut (l.flatMap f) ↔ ∀ a ∈ l, IsUncut (f a) := List.forall_mem_flatMap

theorem universalFrom_cons (h : isLineEnd c = false) (line u : Text) :
    universalFrom line (c :: u) = universalFrom (c :: line) u := by
  have hr : c ≠ '\r' := by
    rintro rfl
    exact absurd h (by decide)
  rw [universalFrom.eq_def]
  split
  · next heq => cases heq
  · next heq => exact absurd (List.cons.inj heq).1 hr
  · next heq =>
    obtain ⟨rfl, rfl⟩ := List.cons.inj heq
    exact if_neg (by simp [h])

theorem universalFrom_append (h : IsUncut t) (line u : Text) :
    universalFrom line (t ++ u) = universalFrom (t.reverse ++ line) u := by
  induction t generalizing line with
  | nil => rfl
  | cons c t ih =>
    rw [isUncut_cons] at h
    rw [List.cons_append, universalFrom_cons h.1, ih h.2, List.reverse_cons, List.append_assoc]
    rfl

theorem universalFrom_of_isLineEnd (h : isLineEnd c = true) (hr : c ≠ '\r') (line u : Text) :
    universalFrom line (c :: u) = line.reverse :: universalLines u := by
  rw [universalFrom.eq_def]
  split
  · next heq => cases heq
  · next heq => exact absurd (List.cons.inj heq).1 hr
  · next heq =>
    obtain ⟨rfl, rfl⟩ := List.cons.inj heq
    exact if_pos h

theorem universalLines_append_cons (ht : IsUncut t) (hc : isLineEnd c = true) (hr : c ≠ '\r')
    (u : Text) : universalLines (t ++ c :: u) = t :: universalLines u := by
  rw [universalLines, universalFrom_append ht, universalFrom_of_isLineEnd hc hr, List.append_nil,
    List.reverse_reverse]

theorem universalLines_of_isUncut (ht : IsUncut t) (hne : t ≠ []) : universalLines t = [t] := by
  have h := universalFrom_append ht [] []
  rw [List.append_nil, List.append_nil] at h
  rw [universalLines, h, universalFrom, if_neg (by simpa using hne), List.reverse_reverse]

theorem join_cons (sep line : Text) (lines : List Text) :
    join sep (line :: lines) = line ++ if lines = [] then [] else sep ++ join sep lines := by
  cases lines <;> simp [join, List.intercalate]

theorem universalLines_join_cons (h : IsUncut line) (hne : line ≠ []) (lines : List Text) :
    universalLines (join "\n" (line :: lines)) = line :: universalLines (join "\n" lines) := by
  rw [join_cons]
  split
  · next hl =>
    subst hl
    rw [List.append_nil, universalLines_of_isUncut h hne]
    rfl
  · exact universalLines_append_cons h (by decide) (by decide) _

/-! ### Carriage returns in front of newlines -/

theorem withReturns_newline (t : Text) : withReturns ('\n' :: t) = '\r' :: '\n' :: withReturns t :=
  rfl

theorem withReturns_cons (h : c ≠ '\n') (t : Text) : withReturns (c :: t) = c :: withReturns t := by
  rw [withReturns, replaceChar, List.flatMap_cons, if_neg h]
  rfl

theorem withReturns_append (t u : Text) : withReturns (t ++ u) = withReturns t ++ withReturns u :=
  List.flatMap_append

theorem withReturns_of_not_mem (h : '\n' ∉ t) : withReturns t = t := by
  induction t with
  | nil => rfl
  | cons c t ih =>
    obtain ⟨hc, ht⟩ := List.ne_and_not_mem_of_not_mem_cons h
    rw [withReturns_cons hc.symm, ih ht]

/-! ### Lines between newlines -/

/-- Induction on the lines of a text, of which the last one has no newline behind it. -/
theorem lines_induction {P : Text → Prop} (last : ∀ line, '\n' ∉ line → P line)
    (cons : ∀ line t, '\n' ∉ line → P t → P (line ++ '\n' :: t)) (t : Text) : P t := by
  induction hn : t.length using Nat.strong_induction_on generalizing t with
  | h n ih =>
    cases hcut : cut? '\n' t with
    | none => exact last t (cut?_eq_none_iff.1 hcut)
    | some p =>
      obtain ⟨line, rest⟩ := p
      obtain ⟨rfl, hline⟩ := cut?_eq_some_iff.1 hcut
      have hlt : rest.length < n := by
        rw [← hn, List.length_append, List.length_cons]
        omega
      exact cons line rest hline (ih _ hlt rest rfl)

theorem map_splitLines_withReturns {α : Type} {f : Text → α}
    (h : ∀ line ∈ splitLines t, f (line ++ ['\r']) = f line) :
    (splitLines (withReturns t)).map f = (splitLines t).map f := by
  induction t using lines_induction with
  | last line hline => rw [withReturns_of_not_mem hline]
  | cons line t hline ih =>
    rw [splitLines_append_newline, splitLines_of_not_mem hline, List.singleton_append,
      List.forall_mem_cons] at h
    have hreturn : '\n' ∉ line ++ ['\r'] := by
      rw [List.mem_append, not_or]
      exact ⟨hline, by decide⟩
    have hwith : withReturns (line ++ '\n' :: t) = (line ++ ['\r']) ++ '\n' :: withReturns t := by
      rw [withReturns_append, withReturns_of_not_mem hline, withReturns_newline]
      simp
    rw [hwith, splitLines_append_newline, splitLines_append_newline,
      splitLines_of_not_mem hreturn, splitLines_of_not_mem hline, List.map_append, List.map_append,
      ih h.2, List.map_singleton, List.map_singleton, h.1]

theorem dropReturn_append_return (line : Text) : dropReturn (line ++ ['\r']) = line := by
  rw [dropReturn, if_pos List.getLast?_concat, List.dropLast_concat]

theorem dropReturns_append_return (line : Text) :
    dropReturns (line ++ ['\r']) = dropReturns line := by
  rw [dropReturns, dropReturns, dropEndWhile, List.reverse_append, List.reverse_singleton,
    List.singleton_append, List.dropWhile_cons_of_pos (by decide)]
  rfl

/-! ### Lines of every kind -/

theorem universalFrom_return_newline (line t : Text) :
    universalFrom line ('\r' :: '\n' :: t) = line.reverse :: universalFrom [] t := by
  rw [universalFrom]

theorem universalFrom_return (h : t.head? ≠ some '\n') (line : Text) :
    universalFrom line ('\r' :: t) = line.reverse :: universalFrom [] t := by
  rw [universalFrom.eq_def]
  split
  · next heq => cases heq
  · next heq =>
    obtain rfl := (List.cons.inj heq).2
    exact absurd rfl h
  · next heq =>
    obtain ⟨rfl, rfl⟩ := List.cons.inj heq
    exact if_pos (by decide)

/-- A line end ends the line. If it is a carriage return in front of a newline, both of them do, and
there is no empty line between them. -/
theorem filter_universalFrom_of_isLineEnd (h : isLineEnd c = true) (line t : Text) :
    (universalFrom line (c :: t)).filter (· ≠ []) =
      (line.reverse :: universalLines t).filter (· ≠ []) := by
  by_cases hr : c = '\r'
  · subst hr
    by_cases hn : t.head? = some '\n'
    · obtain ⟨t, rfl⟩ := List.head?_eq_some_iff.1 hn
      rw [universalFrom_return_newline, universalLines,
        universalFrom_of_isLineEnd (by decide) (by decide), List.filter_cons, List.filter_cons,
        List.filter_cons]
      rfl
    · rw [universalFrom_return hn]
      rfl
  · rw [universalFrom_of_isLineEnd h hr]

theorem filter_universalFrom_append_newline (line t u : Text) :
    (universalFrom line (t ++ '\n' :: u)).filter (· ≠ []) =
      (universalFrom line t).filter (· ≠ []) ++ (universalLines u).filter (· ≠ []) := by
  have hnewline : isLineEnd '\n' = true := by decide
  fun_induction universalFrom line t with
  | case1 =>
    rw [List.nil_append, filter_universalFrom_of_isLineEnd hnewline, List.filter_cons]
    rfl
  | case2 line hne =>
    rw [List.nil_append, filter_universalFrom_of_isLineEnd hnewline, List.filter_cons,
      List.filter_cons]
    split <;> rfl
  | case3 line t ih =>
    rw [List.cons_append, List.cons_append, universalFrom_return_newline, List.filter_cons,
      List.filter_cons, ih]
    split <;> rfl
  | case4 line c t hpair hend ih =>
    rw [List.cons_append, filter_universalFrom_of_isLineEnd hend, universalLines, List.filter_cons,
      List.filter_cons, ih]
    split <;> rfl
  | case5 line c t hpair hend ih =>
    rw [List.cons_append, universalFrom_cons (by simpa using hend), ih]

/-- A newline keeps lines apart, whatever stands in front of it. -/
theorem filter_universalLines_append_newline (t u : Text) :
    (universalLines (t ++ '\n' :: u)).filter (· ≠ []) =
      (universalLines t).filter (· ≠ []) ++ (universalLines u).filter (· ≠ []) :=
  filter_universalFrom_append_newline [] t u

theorem filter_universalFrom_withReturns (line t : Text) :
    (universalFrom line (withReturns t)).filter (· ≠ []) =
      (universalFrom line t).filter (· ≠ []) := by
  fun_induction universalFrom line t with
  | case1 => rfl
  | case2 line hne =>
    have hlast : universalFrom line (withReturns []) = [line.reverse] := if_neg hne
    rw [hlast]
  | case3 line t ih =>
    -- the old carriage return ends the line, and the new one an empty line behind it
    have hreturn : withReturns ('\r' :: '\n' :: t) = '\r' :: '\r' :: '\n' :: withReturns t := rfl
    rw [hreturn, universalFrom_return (by simp), universalFrom_return_newline, List.filter_cons,
      List.filter_cons, List.filter_cons, ih]
    rfl
  | case4 line c t hpair hend ih =>
    by_cases hn : c = '\n'
    · subst hn
      rw [withReturns_newline, universalFrom_return_newline, List.filter_cons, List.filter_cons, ih]
    · rw [withReturns_cons hn, filter_universalFrom_of_isLineEnd hend, universalLines,
        List.filter_cons, List.filter_cons, ih]
  | case5 line c t hpair hend ih =>
    have hn : c ≠ '\n' := by
      rintro rfl
      exact hend (by decide)
    rw [withReturns_cons hn, universalFrom_cons (by simpa using hend), ih]

theorem filter_universalLines_withReturns (t : Text) :
    (universalLines (withReturns t)).filter (· ≠ []) = (universalLines t).filter (· ≠ []) :=
  filter_universalFrom_withReturns [] t

end ChangeFeed.Text
