import ChangeFeed.Proofs.Text.Scan

/-!
# Where a part of a text stands first

`IsFirst` says that a part stands at some place of a text, and at none in front of that. There is at
most one such place, and it is where a text is cut around the part (`cutAround?_eq_some_iff`). It
stays the same when the text goes on (`IsFirst.append`), and behind a text without the part and a
space it is the place right there (`isFirst_behind`).
-/

namespace ChangeFeed.Text

variable {part t front back : Text}

/-- The part stands in the text behind `front`, and nowhere with less in front of it. -/
structure IsFirst (part t front back : Text) : Prop where
  eq : t = front ++ part ++ back
  least : ∀ front' back', t = front' ++ part ++ back' → front.length ≤ front'.length

theorem IsFirst.unique {front' back' : Text} (h : IsFirst part t front back)
    (h' : IsFirst part t front' back') : front = front' ∧ back = back' := by
  have hlength : front.length = front'.length :=
    Nat.le_antisymm (h.least _ _ h'.eq) (h'.least _ _ h.eq)
  have heq := h.eq.symm.trans h'.eq
  rw [List.append_assoc, List.append_assoc] at heq
  obtain ⟨hfront, hback⟩ := List.append_inj heq hlength
  exact ⟨hfront, List.append_cancel_left hback⟩

theorem isFirst_of_cutAround? (h : cutAround? part t = some (front, back)) :
    IsFirst part t front back := by
  induction t generalizing front with
  | nil =>
    rw [cutAround?] at h
    split at h
    · next hpart =>
      cases h
      exact ⟨by rw [hpart]; rfl, fun _ _ _ => Nat.zero_le _⟩
    · cases h
  | cons c t ih =>
    rw [cutAround?] at h
    split at h
    · next r hr =>
      cases h
      exact ⟨rest?_eq_some_iff.1 hr, fun _ _ _ => Nat.zero_le _⟩
    · next hnone =>
      obtain ⟨⟨f, b⟩, hcut, heq⟩ := Option.map_eq_some_iff.1 h
      cases heq
      have hfirst : IsFirst part t f b := ih hcut
      refine ⟨congrArg (c :: ·) hfirst.eq, fun front' back' heq => ?_⟩
      cases front' with
      | nil =>
        have hsome : rest? part (c :: t) = some back' := rest?_eq_some_iff.2 heq
        rw [hnone] at hsome
        cases hsome
      | cons d front' =>
        exact Nat.succ_le_succ (hfirst.least front' back' (List.cons.inj heq).2)

theorem cutAround?_eq_some_iff :
    cutAround? part t = some (front, back) ↔ IsFirst part t front back := by
  refine ⟨isFirst_of_cutAround?, fun h => ?_⟩
  have hsome : (cutAround? part t).isSome = true :=
    cutAround?_isSome_iff.2 ⟨front, back, h.eq.symm⟩
  obtain ⟨⟨front', back'⟩, hcut⟩ := Option.isSome_iff_exists.1 hsome
  obtain ⟨rfl, rfl⟩ := (isFirst_of_cutAround? hcut).unique h
  exact hcut

theorem exists_isFirst (h : part <:+: t) : ∃ front back, IsFirst part t front back := by
  obtain ⟨⟨front, back⟩, hcut⟩ := Option.isSome_iff_exists.1 (cutAround?_isSome_iff.2 h)
  exact ⟨front, back, isFirst_of_cutAround? hcut⟩

theorem IsFirst.append (h : IsFirst part t front back) (more : Text) :
    IsFirst part (t ++ more) front (back ++ more) := by
  refine ⟨by rw [h.eq, List.append_assoc _ back], fun front' back' heq => ?_⟩
  by_contra hlt
  -- the place is in front of the first one in `t`, so it does not reach over the end of `t`
  have hlength : (front' ++ part).length ≤ t.length := by
    rw [h.eq]
    simp only [List.length_append]
    omega
  obtain ⟨back'', rfl⟩ := List.prefix_of_prefix_length_le ⟨back', heq.symm⟩
    (List.prefix_append t more) hlength
  exact hlt (h.least front' back'' rfl)

/-- Behind a keyword that does not contain it, a name without spaces is first where it stands. -/
theorem isFirst_behind {keyword name : Text} (hname : name ≠ []) (hspace : ' ' ∉ name)
    (h : ¬name <:+: keyword) (rest : Text) :
    IsFirst name (keyword ++ ' ' :: (name ++ rest)) (keyword ++ [' ']) rest := by
  refine ⟨by simp, fun front back heq => ?_⟩
  rw [List.append_assoc front] at heq
  rcases List.append_eq_append_iff.1 heq with ⟨more, rfl, hmore⟩ | ⟨tail, rfl, htail⟩
  · cases more with
    | nil =>
      -- the name would start with the space
      cases name with
      | nil => exact absurd rfl hname
      | cons c name =>
        obtain ⟨rfl, -⟩ := List.cons.inj hmore
        exact absurd List.mem_cons_self hspace
    | cons c more => simp
  · rcases List.append_eq_append_iff.1 htail with ⟨after, rfl, -⟩ | ⟨ending, rfl, hending⟩
    · exact absurd ⟨front, after, List.append_assoc _ _ _⟩ h
    · cases ending with
      | nil => exact absurd ⟨front, [], by simp⟩ h
      | cons c ending =>
        obtain ⟨rfl, -⟩ := List.cons.inj hending
        exact absurd (by simp) hspace

end ChangeFeed.Text
