import Mathlib.Data.List.Basic

/-!
# Elements that keep their order

A merge sort by a number puts a list in order and leaves the elements of each number as they came.
There is only one list like that (`eq_of_filter_key`), so it does not matter whether elements are
left out in front of the sort or behind it (`filter_mergeSort_key`).

In two lists that are put together, the elements of each keep their order (`Interleaves`).
-/

namespace ChangeFeed

variable {α : Type}

theorem pairwise_mergeSort_key (key : α → Int) (l : List α) :
    (l.mergeSort fun a b => decide (key a ≤ key b)).Pairwise fun a b => key a ≤ key b := by
  have h : (l.mergeSort fun a b => decide (key a ≤ key b)).Pairwise
      fun a b => decide (key a ≤ key b) :=
    List.pairwise_mergeSort (fun a b c => by simpa using Int.le_trans)
      (fun a b => by simpa using Int.le_total _ _) l
  simpa using h

/-- The elements of one number are in order as they came, so the sort leaves them so. -/
theorem filter_key_mergeSort (key : α → Int) (l : List α) (n : Int) :
    (l.mergeSort fun a b => decide (key a ≤ key b)).filter (key · = n) = l.filter (key · = n) := by
  have hsub : (l.filter (key · = n)).Sublist (l.mergeSort fun a b => decide (key a ≤ key b)) := by
    refine List.sublist_mergeSort (fun a b c => by simpa using Int.le_trans)
      (fun a b => by simpa using Int.le_total _ _) ?_ List.filter_sublist
    refine List.pairwise_of_forall_mem_list fun a ha b hb => ?_
    simp only [List.mem_filter, decide_eq_true_eq] at ha hb
    simp [ha.2, hb.2]
  have hlen : ((l.mergeSort fun a b => decide (key a ≤ key b)).filter (key · = n)).length
      = (l.filter (key · = n)).length :=
    ((List.mergeSort_perm l _).filter _).length_eq
  have h := hsub.filter (key · = n)
  rw [List.filter_filter] at h
  simp only [Bool.and_self] at h
  exact (h.eq_of_length hlen.symm).symm

section
variable {key : α → Int} {l l' : List α} (hkey : ∀ n, l.filter (key · = n) = l'.filter (key · = n))

include hkey in
theorem mem_iff_of_filter_key {x : α} : x ∈ l ↔ x ∈ l' := by
  have hx : x ∈ l.filter (key · = key x) ↔ x ∈ l'.filter (key · = key x) := by rw [hkey]
  simpa using hx

theorem eq_of_filter_key (h : l.Pairwise fun a b => key a ≤ key b)
    (h' : l'.Pairwise fun a b => key a ≤ key b)
    (hkey : ∀ n, l.filter (key · = n) = l'.filter (key · = n)) : l = l' := by
  induction l generalizing l' with
  | nil =>
    have hnone : ∀ x, x ∉ l' := fun x hx => nomatch (mem_iff_of_filter_key hkey).2 hx
    exact (List.eq_nil_iff_forall_not_mem.2 hnone).symm
  | cons a l ih =>
    cases l' with
    | nil => cases (mem_iff_of_filter_key hkey).1 List.mem_cons_self
    | cons b l' =>
      obtain ⟨hal, hl⟩ := List.pairwise_cons.1 h
      obtain ⟨hbl, hl'⟩ := List.pairwise_cons.1 h'
      -- each of the two heads is in the other list, so not below the other head
      have hba : key b ≤ key a := by
        rcases List.mem_cons.1 ((mem_iff_of_filter_key hkey).1 List.mem_cons_self) with rfl | ha
        · exact Int.le_refl _
        · exact hbl a ha
      have hab : key a ≤ key b := by
        rcases List.mem_cons.1 ((mem_iff_of_filter_key hkey).2 List.mem_cons_self) with rfl | hb
        · exact Int.le_refl _
        · exact hal b hb
      have hhead := hkey (key a)
      rw [List.filter_cons_of_pos (by simp), List.filter_cons_of_pos (by simp; omega)] at hhead
      obtain ⟨rfl, -⟩ := List.cons.inj hhead
      refine congrArg (a :: ·) (ih hl hl' fun n => ?_)
      have hn := hkey n
      rw [List.filter_cons, List.filter_cons] at hn
      split at hn
      · exact List.tail_eq_of_cons_eq hn
      · exact hn

end

/-- What is left out in front of a stable sort can as well be left out behind it. -/
theorem filter_mergeSort_key (key : α → Int) (p : α → Bool) (l : List α) :
    (l.mergeSort fun a b => decide (key a ≤ key b)).filter p =
      (l.filter p).mergeSort fun a b => decide (key a ≤ key b) := by
  refine eq_of_filter_key ((pairwise_mergeSort_key key l).filter p)
    (pairwise_mergeSort_key key _) ?_
  intro n
  rw [List.filter_comm, filter_key_mergeSort, List.filter_comm, filter_key_mergeSort]

/-! ### Two lists in one -/

/-- Two lists in one, in which the elements of each keep their order. -/
inductive Interleaves {α : Type} : List α → List α → List α → Prop
  | nil : Interleaves [] [] []
  | left {a : α} {l l' all : List α} : Interleaves l l' all → Interleaves (a :: l) l' (a :: all)
  | right {a : α} {l l' all : List α} : Interleaves l l' all → Interleaves l (a :: l') (a :: all)

namespace Interleaves
variable {α : Type} {l l' all : List α}

theorem mem_iff (h : Interleaves l l' all) {a : α} : a ∈ all ↔ a ∈ l ∨ a ∈ l' := by
  induction h with
  | nil => simp
  | left _ ih => rw [List.mem_cons, List.mem_cons, ih, or_assoc]
  | right _ ih => rw [List.mem_cons, List.mem_cons, ih, or_left_comm]

theorem filter_eq (h : Interleaves l l' all) {p : α → Bool} (hl : ∀ a ∈ l, p a = true)
    (hl' : ∀ a ∈ l', p a = false) : all.filter p = l := by
  induction h with
  | nil => rfl
  | left _ ih =>
    obtain ⟨ha, hl⟩ := List.forall_mem_cons.1 hl
    rw [List.filter_cons_of_pos ha, ih hl hl']
  | right _ ih =>
    obtain ⟨ha, hl'⟩ := List.forall_mem_cons.1 hl'
    rw [List.filter_cons_of_neg (by simp [ha]), ih hl hl']

end Interleaves

end ChangeFeed
