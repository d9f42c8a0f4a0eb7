import ChangeFeed.Proofs.Config.Merge

/-!
# Layers of a configuration, path by path

What a path leads to in a merged configuration is decided by the upper layer as long as that has
something on the path. If it has a value at the end, this value is laid over what the lower layer
has there (`follow?_mergeValue_of_some`); if the path runs out of its tables, the lower layer shows
through (`follow?_mergeValue_of_none`). `IsLaid` says what follows from the two, with the keys of
every table, and `merge_isLaid` that merging is laying over, and that doing it again does nothing.
-/

namespace ChangeFeed

namespace Value

variable {v w : Value} {t : Table} {key : Key} {path front : List Key}

theorem follow?_append (v : Value) (front rest : List Key) :
    v.follow? (front ++ rest) = (v.follow? front).bind (·.follow? rest) := by
  induction front generalizing v with
  | nil => rw [follow?_nil, List.nil_append, Option.bind_some]
  | cons key front ih =>
    cases v with
    | table t =>
      rw [List.cons_append, follow?_table_cons, follow?_table_cons]
      cases Table.get? key t with
      | none => rfl
      | some w => exact ih w
    | _ => rfl

theorem follow?_eq_none_of_isTable (h : v.isTable = false) (hne : path ≠ []) :
    v.follow? path = none := by
  cases hw : v.follow? path with
  | none => rfl
  | some w => exact absurd (path_eq_nil_of_isTable h hw) hne

theorem isTable_of_follow?_cons (h : v.follow? (key :: path) = some w) : ∃ t, v = table t := by
  cases v with
  | table t => exact ⟨t, rfl⟩
  | _ => cases h

theorem IsDistinct.nodup (h : (Value.table t).IsDistinct) : t.keys.Nodup := by
  cases h with
  | leaf hv => cases hv
  | table hn => exact hn

theorem IsDistinct.get? (h : (Value.table t).IsDistinct) (hv : t.get? key = some v) :
    v.IsDistinct := by
  cases h with
  | leaf ht => cases ht
  | table _ hes => exact hes _ (Table.mem_of_get? hv)

theorem IsDistinct.follow? (h : v.IsDistinct) (hw : v.follow? path = some w) : w.IsDistinct := by
  induction path generalizing v with
  | nil =>
    rw [follow?_nil] at hw
    exact Option.some.inj hw ▸ h
  | cons key path ih =>
    obtain ⟨t, rfl⟩ := isTable_of_follow?_cons hw
    rw [follow?_table_cons] at hw
    obtain ⟨x, hx, hw⟩ := Option.bind_eq_some_iff.1 hw
    exact ih (h.get? hx) hw

/-- The keys of the table to which a path leads; none if it leads to something else. -/
def keysAt (v : Value) (path : List Key) : List Key :=
  match v.follow? path with
  | some (.table t) => Table.keys t
  | _ => []

theorem keysAt_of_follow? (h : v.follow? path = some (.table t)) : v.keysAt path = t.keys := by
  unfold keysAt
  rw [h]

theorem keysAt_eq_nil (h : ∀ t, v.follow? path ≠ some (.table t)) : v.keysAt path = [] := by
  unfold keysAt
  split
  · next t ht => exact absurd ht (h t)
  · rfl

end Value

namespace Config

variable {below : Option Value} {v w : Value} {lower upper : Table} {key : Key} {path : List Key}

/-! ### Along a path -/

theorem mergeValue_of_not_table (h : ∀ l : Table, below ≠ some (.table l)) (v : Value) :
    mergeValue below v = v := by
  rcases mergeValue_cases below v with hsame | ⟨l, -, hl, -⟩
  · exact hsame
  · exact absurd hl (h l)

theorem follow?_mergeValue_cons (hn : upper.keys.Nodup) (below : Option Value) (key : Key)
    (path : List Key) : (mergeValue below (.table upper)).follow? (key :: path) =
      match upper.get? key with
      | none => below.bind (·.follow? (key :: path))
      | some w => (mergeValue (below.bind (·.follow? [key])) w).follow? path := by
  by_cases hb : ∃ lower : Table, below = some (.table lower)
  · obtain ⟨lower, rfl⟩ := hb
    have hget : (Value.table lower).follow? [key] = lower.get? key := by
      rw [Value.follow?_table_cons]
      cases lower.get? key <;> simp
    rw [mergeValue, Value.follow?_table_cons, get?_mergeEntries hn, Option.bind_some,
      Option.bind_some, Value.follow?_table_cons, hget]
    cases upper.get? key <;> rfl
  · have hnot : ∀ l : Table, below ≠ some (.table l) := fun l hl => hb ⟨l, hl⟩
    -- what is no table cannot be entered
    have hnone : ∀ rest, below.bind (·.follow? (key :: rest)) = none := by
      intro rest
      rw [Option.bind_eq_none_iff]
      rintro x rfl
      cases hx : x.follow? (key :: rest) with
      | none => rfl
      | some w =>
        obtain ⟨l, rfl⟩ := Value.isTable_of_follow?_cons hx
        exact absurd rfl (hnot l)
    rw [mergeValue_of_not_table hnot, Value.follow?_table_cons, hnone, hnone]
    cases upper.get? key with
    | none => rfl
    | some w =>
      have hplain : mergeValue none w = w :=
        mergeValue_of_not_table (fun l h => by cases h) w
      change w.follow? path = (mergeValue none w).follow? path
      rw [hplain]

theorem follow?_mergeValue_of_some (hv : v.IsDistinct) (hw : v.follow? path = some w)
    (below : Option Value) : (mergeValue below v).follow? path =
      some (mergeValue (below.bind (·.follow? path)) w) := by
  induction path generalizing v below with
  | nil =>
    rw [Value.follow?_nil] at hw
    obtain rfl := Option.some.inj hw
    cases below <;> simp
  | cons key path ih =>
    obtain ⟨upper, rfl⟩ := Value.isTable_of_follow?_cons hw
    rw [Value.follow?_table_cons] at hw
    obtain ⟨x, hx, hw⟩ := Option.bind_eq_some_iff.1 hw
    have hsplit : (below.bind (·.follow? [key])).bind (·.follow? path) =
        below.bind (·.follow? (key :: path)) := by
      rw [Option.bind_assoc]
      exact Option.bind_congr fun y _ => (Value.follow?_append y [key] path).symm
    rw [follow?_mergeValue_cons hv.nodup, hx]
    simp only
    rw [ih (hv.get? hx) hw, hsplit]

theorem follow?_mergeValue_of_none (hv : v.IsDistinct) (hnone : v.follow? path = none)
    (htables : ∀ front w, front <+: path → front ≠ path → v.follow? front = some w →
      w.isTable = true) (below : Option Value) :
    (mergeValue below v).follow? path = below.bind (·.follow? path) := by
  induction path generalizing v below with
  | nil =>
    rw [Value.follow?_nil] at hnone
    cases hnone
  | cons key path ih =>
    have htable : v.isTable = true :=
      htables [] v List.nil_prefix (List.cons_ne_nil key path).symm (Value.follow?_nil v)
    cases v with
    | table upper =>
      rw [Value.follow?_table_cons] at hnone
      rw [follow?_mergeValue_cons hv.nodup]
      cases hx : Table.get? key upper with
      | none => rfl
      | some x =>
        rw [hx, Option.bind_some] at hnone
        have hbehind : ∀ front w, front <+: path → front ≠ path → x.follow? front = some w →
            w.isTable = true := by
          intro front w hfront hne hw
          refine htables (key :: front) w ?_ ?_ ?_
          · exact List.cons_prefix_cons.2 ⟨rfl, hfront⟩
          · exact fun h => hne (List.cons.inj h).2
          · rw [Value.follow?_table_cons, hx, Option.bind_some]
            exact hw
        simp only
        rw [ih (hv.get? hx) hnone hbehind, Option.bind_assoc]
        exact Option.bind_congr fun y _ => (Value.follow?_append y [key] path).symm
    | _ => cases htable

/-! ### All paths -/

/-- What stands where in a value that is made by laying one over another. -/
structure IsLaid (lower upper merged : Value) : Prop where
  leaf : ∀ path v, upper.follow? path = some v → v.isTable = false → merged.follow? path = some v
  table : ∀ path t, upper.follow? path = some (.table t) →
    ∃ u, merged.follow? path = some (.table u)
  /-- The lower value shows where the upper one has nothing, and no leaf in front. -/
  below : ∀ path, upper.follow? path = none →
    (∀ front v, front <+: path → front ≠ path → upper.follow? front = some v → v.isTable = true) →
    merged.follow? path = lower.follow? path
  /-- A leaf of the upper value hides what is below it. -/
  hidden : ∀ path front v, front <+: path → front ≠ path → upper.follow? front = some v →
    v.isTable = false → merged.follow? path = none
  /-- New keys come behind those that are there. -/
  keys : ∀ path t, merged.follow? path = some (.table t) →
    Table.keys t = lower.keysAt path ++ (upper.keysAt path).filter (· ∉ lower.keysAt path)

section
variable {lower upper : Value} (hu : upper.IsDistinct)
include hu

theorem hidden_mergeValue {front : List Key} (hfront : front <+: path) (hne : front ≠ path)
    (hv : upper.follow? front = some v) (hleaf : v.isTable = false) (below : Option Value) :
    (mergeValue below upper).follow? path = none := by
  obtain ⟨rest, rfl⟩ := hfront
  have hrest : rest ≠ [] := by
    rintro rfl
    exact hne (List.append_nil front).symm
  rw [Value.follow?_append, follow?_mergeValue_of_some hu hv, mergeValue_of_leaf hleaf,
    Option.bind_some]
  exact Value.follow?_eq_none_of_isTable hleaf hrest

theorem keys_mergeValue {t : Table}
    (ht : (mergeValue (some lower) upper).follow? path = some (.table t)) :
    t.keys = lower.keysAt path ++ (upper.keysAt path).filter (· ∉ lower.keysAt path) := by
  cases hw : upper.follow? path with
  | some w =>
    rw [follow?_mergeValue_of_some hu hw, Option.bind_some] at ht
    replace ht := Option.some.inj ht
    cases w with
    | table u =>
      rw [Value.keysAt_of_follow? hw]
      by_cases hl : ∃ l : Table, lower.follow? path = some (.table l)
      · obtain ⟨l, hl⟩ := hl
        rw [hl, mergeValue] at ht
        obtain rfl := Value.table.inj ht
        rw [Value.keysAt_of_follow? hl, keys_mergeEntries (hu.follow? hw).nodup]
      · have hnot : ∀ l : Table, lower.follow? path ≠ some (.table l) := fun l h => hl ⟨l, h⟩
        rw [mergeValue_of_not_table hnot] at ht
        obtain rfl := Value.table.inj ht
        simp [Value.keysAt_eq_nil hnot]
    | _ =>
      rw [mergeValue_of_leaf rfl] at ht
      cases ht
  | none =>
    have hupper : upper.keysAt path = [] := Value.keysAt_eq_nil fun t h => by
      rw [hw] at h
      cases h
    by_cases htables : ∀ front v, front <+: path → front ≠ path → upper.follow? front = some v →
        v.isTable = true
    · rw [follow?_mergeValue_of_none hu hw htables, Option.bind_some] at ht
      rw [hupper, Value.keysAt_of_follow? ht, List.filter_nil, List.append_nil]
    · simp only [not_forall, Bool.not_eq_true] at htables
      obtain ⟨front, v, hfront, hne, hv, hleaf⟩ := htables
      rw [hidden_mergeValue hu hfront hne hv hleaf] at ht
      cases ht

theorem isLaid_mergeValue (lower : Value) : IsLaid lower upper (mergeValue (some lower) upper) where
  leaf path v hv hleaf := by
    rw [follow?_mergeValue_of_some hu hv, mergeValue_of_leaf hleaf]
  table path t ht := by
    rw [follow?_mergeValue_of_some hu ht]
    rcases mergeValue_cases ((some lower).bind (·.follow? path)) (.table t) with h | ⟨l, u, hl, -⟩
    · exact ⟨t, congrArg some h⟩
    · rw [hl, mergeValue]
      exact ⟨_, rfl⟩
  below path hnone htables := follow?_mergeValue_of_none hu hnone htables _
  hidden path front v hfront hne hv hleaf := hidden_mergeValue hu hfront hne hv hleaf _
  keys path t ht := keys_mergeValue hu ht

end

theorem mergeValue_again (hv : v.IsDistinct) (hb : ∀ w ∈ below, w.IsDistinct) :
    mergeValue (some (mergeValue below v)) v = mergeValue below v := by
  induction hv generalizing below with
  | leaf hleaf => rw [mergeValue_of_leaf hleaf, mergeValue_of_leaf hleaf]
  | @table upper hn hes ih =>
    by_cases hl : ∃ lower : Table, below = some (.table lower)
    · obtain ⟨lower, rfl⟩ := hl
      have hlower : (Value.table lower).IsDistinct := hb _ rfl
      have hkeys : (mergeEntries lower upper).keys.Nodup :=
        nodup_keys_mergeEntries hlower.nodup hn
      rw [mergeValue, mergeValue]
      refine congrArg Value.table (Table.ext_of_get? ?_ ?_ fun key => ?_).symm
      · exact hkeys
      · -- no key of the upper table is new any more
        have hold : ∀ k ∈ upper.keys, k ∈ (mergeEntries lower upper).keys :=
          fun k hk => (mem_keys_mergeEntries hn).2 (.inr hk)
        rw [keys_mergeEntries hn (mergeEntries lower upper), List.filter_eq_nil_iff.2,
          List.append_nil]
        intro k hk
        simpa using hold k hk
      · rw [get?_mergeEntries hn (mergeEntries lower upper), get?_mergeEntries hn lower]
        cases hw : upper.get? key with
        | none => rfl
        | some w =>
          refine congrArg some (ih _ (Table.mem_of_get? hw) ?_).symm
          intro x hx
          exact hlower.get? hx
    · have hnot : ∀ l : Table, below ≠ some (.table l) := fun l h => hl ⟨l, h⟩
      rw [mergeValue_of_not_table hnot]
      exact mergeValue_self (.table hn hes)

/-- Merging two tables lays one over the other, and laying it over once more changes nothing. -/
theorem merge_isLaid (hl : (Value.table lower).IsDistinct) (hu : (Value.table upper).IsDistinct) :
    ∃ merged : Table, merge (.table lower) (.table upper) = .ok (.table merged) ∧
      IsLaid (.table lower) (.table upper) (.table merged) ∧
      merge (.table merged) (.table upper) = .ok (.table merged) := by
  have hmerge : ∀ l : Table, merge (.table l) (.table upper) =
      .ok (.table (mergeEntries l upper)) := fun _ => rfl
  have hvalue : mergeValue (some (.table lower)) (.table upper) =
      .table (mergeEntries lower upper) := by rw [mergeValue]
  have hagain : mergeEntries (mergeEntries lower upper) upper = mergeEntries lower upper := by
    have htwice : mergeValue (some (mergeValue (some (.table lower)) (.table upper)))
        (.table upper) = mergeValue (some (.table lower)) (.table upper) :=
      mergeValue_again hu fun w hw => Option.some.inj hw ▸ hl
    rw [hvalue, mergeValue] at htwice
    exact Value.table.inj htwice
  refine ⟨mergeEntries lower upper, hmerge lower, ?_, ?_⟩
  · rw [← hvalue]
    exact isLaid_mergeValue hu _
  · rw [hmerge, hagain]

/-- A layer with a leaf in place of a table, a table in place of a leaf, and a new key. -/
def conflicting : Table :=
  [("events", .bool false),
    ("git", .table [("depth", .int 1), ("remote", .table [("name", .text "fork")])])]

theorem merge_isLaid_conflicting :
    (Value.table defaults).IsDistinct ∧ (Value.table conflicting).IsDistinct ∧ ∃ merged : Table,
      merge (.table defaults) (.table conflicting) = .ok (.table merged) ∧
      merge (.table merged) (.table conflicting) = .ok (.table merged) ∧
      merged.keys = Table.keys defaults ∧
      (Value.table merged).follow? ["git", "remote", "name"] = some (.text "fork") ∧
      (Value.table merged).follow? ["events", "commit_url_template"] = none ∧
      ∃ git : Table, (Value.table merged).follow? ["git"] = some (.table git) ∧
        git.keys = ["remote", "timeout_seconds", "depth"] := by
  have hreadable : Json.Readable 3 (.table defaults) := readable_defaults
  have hdefaults := isDistinct_of_readable hreadable
  have hconflicting : (Value.table conflicting).IsDistinct := by
    refine .table (by decide) ?_
    simp only [conflicting, List.forall_mem_cons]
    refine ⟨.leaf rfl, .table (by decide) ?_, List.forall_mem_nil _⟩
    simp only [List.forall_mem_cons]
    exact ⟨.leaf rfl, .table (by decide) (by simpa using .leaf rfl), List.forall_mem_nil _⟩
  obtain ⟨merged, hmerge, hlaid, hagain⟩ := merge_isLaid hdefaults hconflicting
  obtain ⟨git, hgit⟩ := hlaid.table ["git"] _ rfl
  have hname := hlaid.leaf ["git", "remote", "name"] (.text "fork") rfl rfl
  refine ⟨hdefaults, hconflicting, merged, hmerge, hagain, ?_, hname, ?_, git, hgit, ?_⟩
  · rw [hlaid.keys [] merged (Value.follow?_nil _)]
    decide
  · exact hlaid.hidden _ ["events"] (.bool false) ⟨["commit_url_template"], rfl⟩ (by decide) rfl rfl
  · rw [hlaid.keys ["git"] git hgit]
    decide

end Config

end ChangeFeed
