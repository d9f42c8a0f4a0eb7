/-!
Grouping by keys.

The groups come in the order in which their keys first come up, and a group keeps the order of its
members.
-/

namespace ChangeFeed

variable {α β κ : Type}

/-- The groups with a new member in the first group whose key is the same, or else in a group of its
own behind all others. -/
def addToGroup (same : κ → κ → Bool) (k : κ) (a : α) : List (κ × List α) → List (κ × List α)
  | [] => [(k, [a])]
  | g :: groups =>
    if same k g.1 then (g.1, g.2 ++ [a]) :: groups else g :: addToGroup same k a groups

/-- The groups of members with keys, which are added one after the other. -/
def grouped (same : κ → κ → Bool) (ms : List (κ × α)) : List (κ × List α) :=
  ms.foldl (fun groups m => addToGroup same m.1 m.2 groups) []

/-- The members of the group with a key. -/
def groupOf (same : κ → κ → Bool) (k : κ) (groups : List (κ × List α)) : List α :=
  ((groups.find? fun g => same k g.1).map Prod.snd).getD []

/-- The groups of a list, two members being in one group when their keys are `same`. -/
def groupBy (same : κ → κ → Bool) (key : α → κ) (xs : List α) : List (κ × List α) :=
  grouped same (xs.map fun x => (key x, x))

/-- The positions in a list, in groups of the elements there. -/
def positionsBy (same : κ → κ → Bool) (key : α → κ) (xs : List α) : List (κ × List Nat) :=
  grouped same (xs.zipIdx.map fun e => (key e.1, e.2))

/-- The elements at some positions of a list. -/
def elementsAt (xs : List α) (positions : List Nat) : List α := positions.filterMap (xs[·]?)

theorem keys_addToGroup (same : κ → κ → Bool) (k : κ) (a : α) (groups : List (κ × List α)) :
    (addToGroup same k a groups).map Prod.fst =
      if (groups.map Prod.fst).any (same k) then groups.map Prod.fst
      else groups.map Prod.fst ++ [k] := by
  induction groups with
  | nil => rfl
  | cons g groups ih =>
    rw [addToGroup]
    cases hk : same k g.1 with
    | true => simp [hk]
    | false =>
      rw [if_neg (by simp), List.map_cons, ih, List.map_cons, List.any_cons, hk, Bool.false_or]
      split <;> rfl

/-- The keys of the groups are those of the members, without those that have been there before. -/
theorem keys_grouped (same : κ → κ → Bool) (ms : List (κ × α)) :
    (grouped same ms).map Prod.fst = (ms.map Prod.fst).eraseDupsBy same := by
  have h : ∀ groups : List (κ × List α),
      (ms.foldl (fun groups m => addToGroup same m.1 m.2 groups) groups).map Prod.fst =
        List.eraseDupsBy.loop same (ms.map Prod.fst) (groups.map Prod.fst).reverse := by
    induction ms with
    | nil => simp [List.eraseDupsBy.loop]
    | cons m ms ih =>
      intro groups
      rw [List.foldl_cons, ih, keys_addToGroup, List.map_cons, List.eraseDupsBy.loop,
        List.any_reverse]
      cases (groups.map Prod.fst).any (same m.1) <;> simp
  exact h []

end ChangeFeed
