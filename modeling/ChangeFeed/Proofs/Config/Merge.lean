import ChangeFeed.Config.Merge
import ChangeFeed.Proofs.Json.RoundTrip
import ChangeFeed.Proofs.Value.Distinct

/-!
# Laying the same entries over once more

A merged table has the keys of the lower one and then the new ones of the upper one
(`keys_mergeEntries`), and each key has what the two values below and above give
(`get?_mergeEntries`). Both together know a table with distinct keys, so a table that is laid over
itself stays (`mergeValue_self`), and what has been laid over a table may be laid over it again
(`mergeValue_mergeValue`).
-/

namespace ChangeFeed.Config

variable {lower upper : Table} {key : Key} {v : Value} {below : Option Value} {depth : Nat}

theorem get?_mergeEntries (hn : upper.keys.Nodup) (lower : Table) (key : Key) :
    (mergeEntries lower upper).get? key =
      match upper.get? key with
      | none => lower.get? key
      | some v => some (mergeValue (lower.get? key) v) := by
  induction upper generalizing lower with
  | nil =>
    rw [mergeEntries]
    rfl
  | cons e upper ih =>
    obtain ⟨k, w⟩ := e
    obtain ⟨hk, hn⟩ := List.nodup_cons.1 hn
    rw [mergeEntries, ih hn, Table.get?]
    by_cases hkey : k = key
    · subst hkey
      -- the key does not come up again behind its entry
      rw [if_pos rfl, Table.get?_eq_none_iff.2 hk]
      exact Table.get?_set_self _ _ _
    · rw [if_neg hkey, Table.get?_set_of_ne (Ne.symm hkey)]

theorem keys_mergeEntries (hn : upper.keys.Nodup) (lower : Table) :
    (mergeEntries lower upper).keys =
      lower.keys ++ upper.keys.filter fun k => k ∉ lower.keys := by
  induction upper generalizing lower with
  | nil =>
    rw [mergeEntries]
    exact (List.append_nil _).symm
  | cons e upper ih =>
    obtain ⟨k, w⟩ := e
    obtain ⟨hk, hn⟩ := List.nodup_cons.1 hn
    have hcons : Table.keys ((k, w) :: upper) = k :: Table.keys upper := rfl
    rw [mergeEntries, ih hn, hcons, Table.keys_set]
    by_cases hmem : k ∈ lower.keys
    · rw [if_pos hmem, List.filter_cons_of_neg (by simpa using hmem)]
    · rw [if_neg hmem, List.filter_cons_of_pos (by simpa using hmem), List.append_assoc]
      have hrest : (Table.keys upper).filter (fun l => l ∉ lower.keys ++ [k]) =
          (Table.keys upper).filter fun l => l ∉ lower.keys := by
        refine List.filter_congr fun l hl => ?_
        have hne : l ≠ k := by
          rintro rfl
          exact hk hl
        simp [hne]
      rw [hrest]
      rfl

theorem mem_keys_mergeEntries (hn : upper.keys.Nodup) :
    key ∈ (mergeEntries lower upper).keys ↔ key ∈ lower.keys ∨ key ∈ upper.keys := by
  rw [keys_mergeEntries hn, List.mem_append, List.mem_filter, decide_eq_true_eq]
  tauto

theorem nodup_keys_mergeEntries (hl : lower.keys.Nodup) (hn : upper.keys.Nodup) :
    (mergeEntries lower upper).keys.Nodup := by
  rw [keys_mergeEntries hn, List.nodup_append]
  refine ⟨hl, hn.filter _, ?_⟩
  intro k hk l hlater
  rintro rfl
  exact of_decide_eq_true (List.mem_filter.1 hlater).2 hk

theorem mem_mergeEntries (hl : lower.keys.Nodup) (hn : upper.keys.Nodup)
    (h : (key, v) ∈ mergeEntries lower upper) :
    (key, v) ∈ lower ∨
      ∃ w, (key, w) ∈ upper ∧ v = mergeValue (lower.get? key) w := by
  have hget := Table.get?_of_mem (nodup_keys_mergeEntries hl hn) h
  rw [get?_mergeEntries hn] at hget
  cases hw : upper.get? key with
  | none =>
    rw [hw] at hget
    exact .inl (Table.mem_of_get? hget)
  | some w =>
    rw [hw] at hget
    exact .inr ⟨w, Table.mem_of_get? hw, (Option.some.inj hget).symm⟩

theorem mergeValue_of_leaf (h : v.isTable = false) (below : Option Value) :
    mergeValue below v = v := by
  refine mergeValue.eq_2 below v ?_
  rintro l u - rfl
  cases h

theorem mergeValue_cases (below : Option Value) (v : Value) :
    mergeValue below v = v ∨ ∃ l u : Table, below = some (.table l) ∧ v = .table u := by
  by_cases h : ∃ l u : Table, below = some (.table l) ∧ v = .table u
  · exact .inr h
  · refine .inl (mergeValue.eq_2 below v ?_)
    intro l u hl hu
    exact h ⟨l, u, hl, hu⟩

/-! ### Once more -/

theorem mergeValue_self (h : v.IsDistinct) : mergeValue (some v) v = v := by
  induction h with
  | leaf hv => exact mergeValue_of_leaf hv _
  | @table es hn _ ih =>
    have hkeys : (mergeEntries es es).keys = es.keys := by
      rw [keys_mergeEntries hn, List.filter_eq_nil_iff.2, List.append_nil]
      intro k hk
      simpa using hk
    rw [mergeValue]
    refine congrArg Value.table (Table.ext_of_get? ?_ hkeys fun key => ?_)
    · rw [hkeys]
      exact hn
    · rw [get?_mergeEntries hn]
      cases hw : es.get? key with
      | none => rfl
      | some w => exact congrArg some (ih _ (Table.mem_of_get? hw))

/-- What has been laid over a value can be laid over it again. -/
theorem mergeValue_mergeValue (h : v.IsDistinct) (hb : ∀ w ∈ below, w.IsDistinct) :
    mergeValue below (mergeValue below v) = mergeValue below v := by
  induction h generalizing below with
  | leaf hv => rw [mergeValue_of_leaf hv, mergeValue_of_leaf hv]
  | @table es hn _ ih =>
    rcases mergeValue_cases below (.table es) with hsame | ⟨l, u, rfl, hu⟩
    · rw [hsame, hsame]
    · cases hu
      cases hb _ rfl with
      | leaf h => cases h
      | table hl hdistinct =>
        have hm := nodup_keys_mergeEntries hl hn
        have hkeys : (mergeEntries l (mergeEntries l es)).keys = (mergeEntries l es).keys := by
          -- none of the keys is new any more
          rw [keys_mergeEntries hm, keys_mergeEntries hn]
          simp
        rw [mergeValue, mergeValue]
        refine congrArg Value.table (Table.ext_of_get? ?_ hkeys fun key => ?_)
        · rw [hkeys]
          exact hm
        · rw [get?_mergeEntries hm, get?_mergeEntries hn]
          cases hw : es.get? key with
          | none =>
            cases hx : l.get? key with
            | none => rfl
            | some x => exact congrArg some (mergeValue_self (hdistinct _ (Table.mem_of_get? hx)))
          | some w =>
            refine congrArg some (ih _ (Table.mem_of_get? hw) ?_)
            intro x hx
            exact hdistinct _ (Table.mem_of_get? hx)

/-! ### Values that can be read back -/

theorem isDistinct_of_readable (h : Json.Readable depth v) : v.IsDistinct := by
  induction h with
  | table hn _ _ ih => exact .table hn ih
  | _ => exact .leaf rfl

theorem readable_mergeValue (h : Json.Readable depth v) (hb : ∀ w ∈ below, Json.Readable depth w) :
    Json.Readable depth (mergeValue below v) := by
  induction h generalizing below with
  | @table depth es hn hk hes ih =>
    rcases mergeValue_cases below (.table es) with hsame | ⟨l, u, rfl, hu⟩
    · rw [hsame]
      exact .table hn hk hes
    · cases hu
      cases hb _ rfl with
      | table hln hlk hl =>
        rw [mergeValue]
        refine .table (nodup_keys_mergeEntries hln hn) ?_ ?_
        · rintro ⟨key, w⟩ hw
          rcases mem_mergeEntries hln hn hw with hw | ⟨x, hx, -⟩
          · exact hlk _ hw
          · exact hk (key, x) hx
        · rintro ⟨key, w⟩ hw
          rcases mem_mergeEntries hln hn hw with hw | ⟨x, hx, rfl⟩
          · exact hl _ hw
          · refine ih _ hx ?_
            intro y hy
            exact hl _ (Table.mem_of_get? hy)
  | _ =>
    rw [mergeValue_of_leaf rfl]
    constructor <;> assumption

theorem readable_defaults : Json.Readable (depth + 3) (.table defaults) := by
  refine .table (by decide) (by simp [defaults]) ?_
  simp only [defaults, List.forall_mem_cons]
  refine ⟨.table (by decide) (by simp) ?_, .table (by decide) (by simp) ?_,
    .table (by decide) (by simp) ?_, .table (by decide) (by simp) ?_,
    .table (by decide) (by simp) ?_, List.forall_mem_nil _⟩
  all_goals simp only [List.forall_mem_cons]
  · exact ⟨.text _, .int (by decide +kernel), List.forall_mem_nil _⟩
  · exact ⟨.text _, .text _, .int (by decide +kernel), List.forall_mem_nil _⟩
  · exact ⟨.bool _, .bool _, .list (List.forall_mem_nil _), List.forall_mem_nil _⟩
  · exact ⟨.text _, List.forall_mem_nil _⟩
  · exact ⟨.text _, .text _, List.forall_mem_nil _⟩

end ChangeFeed.Config
