import ChangeFeed.Grouping
import Mathlib.Data.List.Basic
import Mathlib.Data.List.Induction

/-!
# What is in the groups

Groups are made while their members come one after the other. `AreFirsts` is what holds of the keys
after any number of members: no key has two groups, and the groups stand in the order in which the
first members with their keys came. `AreGroups` adds that each group has the members with its key.
`AreGroups.add` is one more member, and `areGroups_grouped` is the whole way. A look-up then finds
the members with a key, in the order in which they came (`groupOf_grouped`), and none is lost on the
way from group to group (`flatMap_groupOf_perm`).
-/

namespace ChangeFeed

variable {α κ : Type} {same : κ → κ → Bool} {ks keys : List κ} {ms : List (κ × α)}
  {groups : List (κ × List α)} {k l : κ} {a : α}

/-- Where the first of some keys stands that is the same as `l`. -/
def firstOf (same : κ → κ → Bool) (l : κ) (ks : List κ) : Nat := ks.findIdx fun k => same k l

/-- The members with a key. -/
def membersOf (same : κ → κ → Bool) (l : κ) (ms : List (κ × α)) : List α :=
  (ms.filter fun m => same m.1 l).map Prod.snd

/-- The different ones of some keys, each at its first place. -/
structure AreFirsts (same : κ → κ → Bool) (ks keys : List κ) : Prop where
  covers : ∀ k ∈ ks, ∃ l ∈ keys, same k l
  found : ∀ l ∈ keys, l ∈ ks
  ordered : keys.Pairwise fun k l => firstOf same k ks < firstOf same l ks

/-- The groups of these members. -/
structure AreGroups (same : κ → κ → Bool) (ms : List (κ × α)) (groups : List (κ × List α)) :
    Prop where
  keys : AreFirsts same (ms.map Prod.fst) (groups.map Prod.fst)
  members : ∀ g ∈ groups, g.2 = membersOf same g.1 ms

theorem firstOf_append (h : ∃ k ∈ ks, same k l) (more : List κ) :
    firstOf same l (ks ++ more) = firstOf same l ks := by
  have hlt : ks.findIdx (fun k => same k l) < ks.length := List.findIdx_lt_length_of_exists h
  rw [firstOf, firstOf, List.findIdx_append, if_pos hlt]

theorem firstOf_concat (h : ∀ k ∈ ks, ¬same k l) (hl : same l l) :
    firstOf same l (ks ++ [l]) = ks.length := by
  have hend : ks.findIdx (fun k => same k l) = ks.length :=
    List.findIdx_eq_length.2 (by simpa using h)
  rw [firstOf, List.findIdx_append, hend, if_neg (Nat.lt_irrefl _), List.findIdx_singleton,
    if_pos hl, Nat.zero_add]

theorem membersOf_concat (same : κ → κ → Bool) (l k : κ) (a : α) (ms : List (κ × α)) :
    membersOf same l (ms ++ [(k, a)]) = membersOf same l ms ++ if same k l then [a] else [] := by
  rw [membersOf, membersOf, List.filter_append, List.map_append, List.filter_singleton]
  cases same k l <;> rfl

theorem membersOf_eq_nil (h : ∀ k ∈ ms.map Prod.fst, ¬same k l) : membersOf same l ms = [] := by
  have hnone : ms.filter (fun m => same m.1 l) = [] :=
    List.filter_eq_nil_iff.2 fun m hm => h m.1 (List.mem_map_of_mem hm)
  rw [membersOf, hnone, List.map_nil]

theorem addToGroup_cases (same : κ → κ → Bool) (k : κ) (a : α) (groups : List (κ × List α)) :
    (∃ front g back, groups = front ++ g :: back ∧ same k g.1 ∧
        addToGroup same k a groups = front ++ (g.1, g.2 ++ [a]) :: back) ∨
      (∀ g ∈ groups, ¬same k g.1) ∧ addToGroup same k a groups = groups ++ [(k, [a])] := by
  induction groups with
  | nil => exact .inr ⟨by simp, rfl⟩
  | cons g groups ih =>
    rw [addToGroup]
    by_cases hk : same k g.1
    · rw [if_pos hk]
      exact .inl ⟨[], g, groups, rfl, hk, rfl⟩
    · rw [if_neg hk]
      rcases ih with ⟨front, h, back, rfl, hh, hadd⟩ | ⟨hnone, hadd⟩
      · exact .inl ⟨g :: front, h, back, rfl, hh, by rw [hadd]; rfl⟩
      · exact .inr ⟨List.forall_mem_cons.2 ⟨hk, hnone⟩, by rw [hadd]; rfl⟩

theorem addToGroup_perm (same : κ → κ → Bool) (k : κ) (a : α) (groups : List (κ × List α)) :
    ((addToGroup same k a groups).flatMap Prod.snd).Perm (groups.flatMap Prod.snd ++ [a]) := by
  rcases addToGroup_cases same k a groups with ⟨front, g, back, rfl, -, hadd⟩ | ⟨-, hadd⟩
  · rw [hadd, List.flatMap_append, List.flatMap_append, List.flatMap_cons, List.flatMap_cons,
      List.append_assoc, List.append_assoc, List.append_assoc]
    exact ((List.perm_append_comm).append_left _).append_left _
  · rw [hadd, List.flatMap_append]
    exact .refl _

theorem grouped_concat (same : κ → κ → Bool) (ms : List (κ × α)) (m : κ × α) :
    grouped same (ms ++ [m]) = addToGroup same m.1 m.2 (grouped same ms) := by
  rw [grouped, List.foldl_append]
  rfl

theorem grouped_perm (same : κ → κ → Bool) (ms : List (κ × α)) :
    ((grouped same ms).flatMap Prod.snd).Perm (ms.map Prod.snd) := by
  induction ms using List.reverseRecOn with
  | nil => exact .refl _
  | append_singleton ms m ih =>
    rw [grouped_concat, List.map_append]
    exact (addToGroup_perm ..).trans (ih.append_right _)

section
variable (hsame : Equivalence fun k l => same k l = true)

include hsame

theorem same_congr (h : same k l) (i : κ) : same i k = same i l := by
  rw [Bool.eq_iff_iff]
  exact ⟨fun hik => hsame.trans hik h, fun hil => hsame.trans hil (hsame.symm h)⟩

theorem membersOf_congr (h : same k l) (ms : List (κ × α)) :
    membersOf same k ms = membersOf same l ms := by
  simp only [membersOf, same_congr hsame h]

/-! ### Keys -/

namespace AreFirsts

theorem apart (h : AreFirsts same ks keys) : keys.Pairwise fun k l => ¬same k l := by
  refine h.ordered.imp fun {k l} hlt hk => ?_
  simp only [firstOf, same_congr hsame hk, Nat.lt_irrefl] at hlt

theorem ordered_append (h : AreFirsts same ks keys) (more : List κ) :
    keys.Pairwise fun k l => firstOf same k (ks ++ more) < firstOf same l (ks ++ more) := by
  refine List.Pairwise.imp_of_mem (fun {i j} hi hj hlt => ?_) h.ordered
  rwa [firstOf_append ⟨i, h.found i hi, hsame.refl i⟩,
    firstOf_append ⟨j, h.found j hj, hsame.refl j⟩]

theorem again (h : AreFirsts same ks keys) (hl : l ∈ keys) (hk : same k l) :
    AreFirsts same (ks ++ [k]) keys := by
  refine ⟨fun i hi => ?_, fun i hi => List.mem_append_left _ (h.found i hi),
    h.ordered_append hsame _⟩
  rcases List.mem_append.1 hi with hi | hi
  · exact h.covers i hi
  · obtain rfl := List.mem_singleton.1 hi
    exact ⟨l, hl, hk⟩

theorem not_same_of_new (h : AreFirsts same ks keys) (hk : ∀ l ∈ keys, ¬same k l) :
    ∀ i ∈ ks, ¬same i k := by
  intro i hi hik
  obtain ⟨l, hl, hil⟩ := h.covers i hi
  exact hk l hl (hsame.trans (hsame.symm hik) hil)

theorem concat (h : AreFirsts same ks keys) (hk : ∀ l ∈ keys, ¬same k l) :
    AreFirsts same (ks ++ [k]) (keys ++ [k]) := by
  have hnew : ∀ i ∈ ks, ¬same i k := h.not_same_of_new hsame hk
  refine ⟨fun i hi => ?_, fun l hl => ?_, ?_⟩
  · rcases List.mem_append.1 hi with hi | hi
    · obtain ⟨l, hl, hil⟩ := h.covers i hi
      exact ⟨l, List.mem_append_left _ hl, hil⟩
    · obtain rfl := List.mem_singleton.1 hi
      exact ⟨i, by simp, hsame.refl i⟩
  · exact List.mem_append.2 ((List.mem_append.1 hl).imp_left (h.found l))
  · refine List.pairwise_append.2
      ⟨h.ordered_append hsame _, List.pairwise_singleton _ _, fun l hl j hj => ?_⟩
    obtain rfl := List.mem_singleton.1 hj
    have hin : ∃ i ∈ ks, same i l := ⟨l, h.found l hl, hsame.refl l⟩
    rw [firstOf_append hin, firstOf_concat hnew (hsame.refl j)]
    exact List.findIdx_lt_length_of_exists hin

end AreFirsts

/-! ### Members -/

namespace AreGroups

theorem add (h : AreGroups same ms groups) (k : κ) (a : α) :
    AreGroups same (ms ++ [(k, a)]) (addToGroup same k a groups) := by
  have hother : ∀ g ∈ groups, ¬same k g.1 → g.2 = membersOf same g.1 (ms ++ [(k, a)]) := by
    intro g hg hk
    rw [membersOf_concat, if_neg hk, List.append_nil, h.members g hg]
  have hms : (ms ++ [(k, a)]).map Prod.fst = ms.map Prod.fst ++ [k] := by simp
  rcases addToGroup_cases same k a groups with ⟨front, g, back, rfl, hk, hadd⟩ | ⟨hnone, hadd⟩
  case inl =>
    have hkeys : (front ++ (g.1, g.2 ++ [a]) :: back).map Prod.fst =
        (front ++ g :: back).map Prod.fst := by simp
    rw [hadd]
    refine ⟨?_, fun g' hg' => ?_⟩
    · rw [hms, hkeys]
      exact h.keys.again hsame (by simp) hk
    · -- the key of the new member is that of `g`, so it is the key of no other group
      obtain ⟨-, hback, hfront⟩ :=
        List.pairwise_append.1 (List.pairwise_map.1 (h.keys.apart hsame))
      rcases List.mem_append.1 hg' with hg' | hg'
      · refine hother g' (List.mem_append_left _ hg') fun hk' => ?_
        exact hfront g' hg' g (by simp) (hsame.trans (hsame.symm hk') hk)
      rcases List.mem_cons.1 hg' with rfl | hg'
      · rw [membersOf_concat, if_pos hk, ← h.members g (by simp)]
      · refine hother g' (by simp [hg']) fun hk' => ?_
        exact List.rel_of_pairwise_cons hback hg' (hsame.trans (hsame.symm hk) hk')
  case inr =>
    have hnone' : ∀ l ∈ groups.map Prod.fst, ¬same k l := List.forall_mem_map.2 hnone
    rw [hadd]
    refine ⟨?_, fun g hg => ?_⟩
    · rw [hms, List.map_append]
      exact h.keys.concat hsame hnone'
    · rcases List.mem_append.1 hg with hg | hg
      · exact hother g hg (hnone g hg)
      · obtain rfl := List.mem_singleton.1 hg
        have hnil : membersOf same k ms = [] :=
          membersOf_eq_nil (h.keys.not_same_of_new hsame hnone')
        rw [membersOf_concat, if_pos (hsame.refl k), hnil, List.nil_append]

end AreGroups

theorem areGroups_grouped (ms : List (κ × α)) : AreGroups same ms (grouped same ms) := by
  induction ms using List.reverseRecOn with
  | nil => exact ⟨⟨by simp, by simp [grouped], .nil⟩, by simp [grouped]⟩
  | append_singleton ms m ih =>
    rw [grouped_concat]
    exact ih.add hsame m.1 m.2

theorem groupOf_grouped (l : κ) (ms : List (κ × α)) :
    groupOf same l (grouped same ms) = membersOf same l ms := by
  have h := areGroups_grouped hsame ms
  rw [groupOf]
  cases hfind : (grouped same ms).find? fun g => same l g.1 with
  | none =>
    refine (membersOf_eq_nil fun k hk hkl => ?_).symm
    obtain ⟨i, hi, hki⟩ := h.keys.covers k hk
    obtain ⟨g, hg, rfl⟩ := List.mem_map.1 hi
    exact List.find?_eq_none.1 hfind g hg (hsame.trans (hsame.symm hkl) hki)
  | some g =>
    have hg : g ∈ grouped same ms := List.mem_of_find?_eq_some hfind
    have hlg : same l g.1 := by simpa using List.find?_some hfind
    rw [Option.map_some, Option.getD_some, h.members g hg, membersOf_congr hsame hlg]

theorem groupOf_groupBy (key : α → κ) (l : κ) (xs : List α) :
    groupOf same l (groupBy same key xs) = xs.filter fun x => same (key x) l := by
  rw [groupBy, groupOf_grouped hsame, membersOf, List.filter_map, List.map_map]
  exact List.map_id _

theorem flatMap_groupOf_perm (ms : List (κ × α)) :
    (((grouped same ms).map Prod.fst).flatMap fun k => groupOf same k (grouped same ms)).Perm
      (ms.map Prod.snd) := by
  have h := areGroups_grouped hsame ms
  have hgroups : ((grouped same ms).map Prod.fst).flatMap
      (fun k => groupOf same k (grouped same ms)) = (grouped same ms).flatMap Prod.snd := by
    rw [List.flatMap_map]
    refine List.flatMap_congr fun g hg => ?_
    rw [groupOf_grouped hsame, h.members g hg]
  rw [hgroups]
  exact grouped_perm same ms

/-! ### Positions -/

section
variable (key : α → κ) (xs : List α)

omit hsame in
theorem elementsAt_map_snd {xs : List α} {es : List (α × Nat)} (h : ∀ e ∈ es, xs[e.2]? = some e.1) :
    elementsAt xs (es.map Prod.snd) = es.map Prod.fst := by
  have hget : ∀ e ∈ es, ((xs[·]?) ∘ Prod.snd) e = some e.1 := h
  rw [elementsAt, List.filterMap_map, List.filterMap_congr hget, List.filterMap_eq_map']

omit hsame in
theorem elementsAt_range : elementsAt xs (List.range xs.length) = xs := by
  have hget : ∀ e ∈ xs.zipIdx, xs[e.2]? = some e.1 := fun _ he => List.mem_zipIdx_iff_getElem?.1 he
  rw [List.range_eq_range', ← List.zipIdx_map_snd 0 xs, elementsAt_map_snd hget,
    List.zipIdx_map_fst]

theorem areFirsts_positionsBy :
    AreFirsts same (xs.map key) ((positionsBy same key xs).map Prod.fst) := by
  have hkeys : (xs.zipIdx.map fun e => (key e.1, e.2)).map Prod.fst = xs.map key := by
    conv_rhs => rw [← List.zipIdx_map_fst 0 xs]
    rw [List.map_map, List.map_map]
    rfl
  rw [← hkeys]
  exact (areGroups_grouped hsame _).keys

theorem groupOf_positionsBy (l : κ) : groupOf same l (positionsBy same key xs) =
    (xs.zipIdx.filter fun e => same (key e.1) l).map Prod.snd := by
  rw [positionsBy, groupOf_grouped hsame, membersOf, List.filter_map, List.map_map]
  rfl

theorem mem_groupOf_positionsBy {l : κ} {i : Nat} :
    i ∈ groupOf same l (positionsBy same key xs) ↔ ∃ x, xs[i]? = some x ∧ same (key x) l := by
  rw [groupOf_positionsBy hsame]
  simp [List.mem_zipIdx_iff_getElem?]

theorem elementsAt_groupOf (l : κ) : elementsAt xs (groupOf same l (positionsBy same key xs)) =
    xs.filter fun x => same (key x) l := by
  have hget : ∀ e ∈ xs.zipIdx.filter (fun e => same (key e.1) l), xs[e.2]? = some e.1 :=
    fun _ he => List.mem_zipIdx_iff_getElem?.1 (List.mem_filter.1 he).1
  conv_rhs => rw [← List.zipIdx_map_fst 0 xs]
  rw [groupOf_positionsBy hsame, elementsAt_map_snd hget, List.filter_map]
  rfl

theorem pairwise_groupOf_positionsBy (l : κ) :
    (groupOf same l (positionsBy same key xs)).Pairwise (· < ·) := by
  have hsub : (groupOf same l (positionsBy same key xs)).Sublist (List.range xs.length) := by
    rw [groupOf_positionsBy hsame, List.range_eq_range', ← List.zipIdx_map_snd 0 xs]
    exact List.filter_sublist.map _
  exact List.pairwise_lt_range.sublist hsub

theorem flatMap_positionsBy_perm : (((positionsBy same key xs).map Prod.fst).flatMap fun k =>
    groupOf same k (positionsBy same key xs)).Perm (List.range xs.length) := by
  have hpositions : (xs.zipIdx.map fun e => (key e.1, e.2)).map Prod.snd =
      List.range xs.length := by
    rw [List.map_map, List.range_eq_range', ← List.zipIdx_map_snd 0 xs]
    rfl
  rw [← hpositions]
  exact flatMap_groupOf_perm hsame _

end

end

end ChangeFeed
