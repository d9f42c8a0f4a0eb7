import ChangeFeed.Value.Basic

/-!
# Tables whose keys are distinct

A path is a list of keys, each of which leads from a table to the value that it has there. The
outline of a value is what is left of it when everything but its tables is forgotten.

A table with distinct keys is known by its keys and by what it has for each of them
(`Table.ext_of_get?`). If the keys are distinct at every level, a value is known by its outline and
by the leaves at the ends of its paths (`Value.eq_of_outline_eq`).
-/

namespace ChangeFeed

namespace Value

/-- The value at the end of a path, if the path leads anywhere. -/
def follow? : Value → List Key → Option Value
  | v, [] => some v
  | .table es, key :: path =>
    match Table.get? key es with
    | some v => follow? v path
    | none => none
  | _, _ :: _ => none

@[simp]
theorem follow?_nil (v : Value) : v.follow? [] = some v := by cases v <;> rfl

theorem follow?_table_cons (t : Table) (key : Key) (path : List Key) :
    (table t).follow? (key :: path) = (t.get? key).bind (·.follow? path) := by
  rw [follow?]
  cases t.get? key <;> rfl

mutual

/-- The tables of a value with their keys, and nothing in place of everything else. -/
def outline : Value → Value
  | .table es => .table (outlineEntries es)
  | _ => .null

/-- The outlines of the values of a table. -/
def outlineEntries : List (Key × Value) → Table
  | [] => []
  | (k, v) :: es => (k, outline v) :: outlineEntries es

end

theorem outlineEntries_eq_map (es : List (Key × Value)) :
    outlineEntries es = es.map fun e => (e.1, e.2.outline) := by
  induction es with
  | nil => rfl
  | cons e es ih => simp [outlineEntries, ih]

end Value

namespace Table

variable {t u : Table} {key : Key} {v : Value}

theorem get?_eq_none_iff : get? key t = none ↔ key ∉ keys t := by
  induction t with
  | nil => simp [get?, keys]
  | cons e t ih =>
    obtain ⟨k, w⟩ := e
    by_cases hk : k = key
    · simp [get?, keys, hk]
    · have hne : ¬key = k := fun h => hk h.symm
      simpa [get?, keys, hk, hne] using ih

theorem mem_of_get? (h : get? key t = some v) : (key, v) ∈ t := by
  induction t with
  | nil => cases h
  | cons e t ih =>
    obtain ⟨k, w⟩ := e
    by_cases hk : k = key
    · rw [get?, if_pos hk] at h
      simp [hk, Option.some.inj h]
    · rw [get?, if_neg hk] at h
      exact List.mem_cons_of_mem _ (ih h)

theorem mem_keys_of_mem (h : (key, v) ∈ t) : key ∈ keys t :=
  List.mem_map.2 ⟨(key, v), h, rfl⟩

theorem get?_of_mem (hn : (keys t).Nodup) (h : (key, v) ∈ t) : get? key t = some v := by
  induction t with
  | nil => cases h
  | cons e t ih =>
    obtain ⟨k, w⟩ := e
    obtain ⟨hk, hn⟩ := List.nodup_cons.1 hn
    rcases List.mem_cons.1 h with h | h
    · obtain ⟨rfl, rfl⟩ := Prod.mk.inj h
      rw [get?, if_pos rfl]
    · have hne : k ≠ key := by
        rintro rfl
        exact hk (mem_keys_of_mem h)
      rw [get?, if_neg hne]
      exact ih hn h

theorem ext_of_get? (hn : (keys t).Nodup) (hk : keys t = keys u)
    (h : ∀ key, get? key t = get? key u) : t = u := by
  induction t generalizing u with
  | nil => exact (List.map_eq_nil_iff.1 hk.symm).symm
  | cons e t ih =>
    obtain ⟨k, v⟩ := e
    obtain ⟨⟨l, w⟩, u, rfl, hl, htail⟩ := List.map_eq_cons_iff.1 hk.symm
    obtain rfl : k = l := hl.symm
    obtain ⟨hnot, hn⟩ := List.nodup_cons.1 hn
    have hhead := h k
    rw [get?, get?, if_pos rfl, if_pos rfl] at hhead
    have hrest : t = u := by
      refine ih hn htail.symm fun key => ?_
      by_cases hkey : k = key
      · -- the first key does not come up again in either table
        have ht : key ∉ keys t := hkey ▸ hnot
        have hu : key ∉ keys u := by
          rw [keys, htail]
          exact ht
        rw [get?_eq_none_iff.2 ht, get?_eq_none_iff.2 hu]
      · have := h key
        rwa [get?, get?, if_neg hkey, if_neg hkey] at this
    rw [hrest, Option.some.inj hhead]

end Table

namespace Value

/-! ### Outlines -/

theorem isTable_outline (v : Value) : v.outline.isTable = v.isTable := by
  cases v <;> rfl

theorem outline_of_isTable {v : Value} (h : v.isTable = false) : v.outline = .null := by
  cases v with
  | table _ => cases h
  | _ => rfl

theorem keys_outlineEntries (t : Table) : Table.keys (outlineEntries t) = Table.keys t := by
  rw [outlineEntries_eq_map, Table.keys, Table.keys, List.map_map]
  rfl

theorem get?_outlineEntries (key : Key) (t : Table) :
    Table.get? key (outlineEntries t) = (Table.get? key t).map outline := by
  induction t with
  | nil => rfl
  | cons e t ih =>
    obtain ⟨k, v⟩ := e
    rw [outlineEntries, Table.get?, Table.get?]
    split
    · rfl
    · exact ih

theorem follow?_outline (v : Value) (path : List Key) :
    v.outline.follow? path = (v.follow? path).map outline := by
  induction path generalizing v with
  | nil => simp
  | cons key path ih =>
    cases v with
    | table t =>
      rw [outline, follow?_table_cons, follow?_table_cons, get?_outlineEntries]
      cases Table.get? key t with
      | none => rfl
      | some w => exact ih w
    | _ => rfl

theorem path_eq_nil_of_isTable {v w : Value} {path : List Key} (hv : v.isTable = false)
    (h : v.follow? path = some w) : path = [] := by
  cases path with
  | nil => rfl
  | cons key path =>
    cases v with
    | table _ => cases hv
    | _ => cases h

/-! ### Distinct keys at every level -/

/-- Each key of a table comes up once, and so does each key of the tables in it. -/
inductive IsDistinct : Value → Prop
  | leaf {v : Value} : v.isTable = false → IsDistinct v
  | table {es : Table} : (Table.keys es).Nodup → (∀ e ∈ es, IsDistinct e.2) → IsDistinct (.table es)

theorem eq_of_outline_eq {v w : Value} (hv : v.IsDistinct) (ho : v.outline = w.outline)
    (h : ∀ path leaf, v.follow? path = some leaf → leaf.isTable = false →
      w.follow? path = some leaf) : v = w := by
  induction hv generalizing w with
  | @leaf v hl =>
    have hw := h [] v (follow?_nil v) hl
    rw [follow?_nil] at hw
    exact (Option.some.inj hw).symm
  | @table es hn _ ih =>
    cases w with
    | table fs =>
      have ho : outlineEntries es = outlineEntries fs := Value.table.inj ho
      have hkeys : Table.keys es = Table.keys fs := by
        rw [← keys_outlineEntries, ho, keys_outlineEntries]
      refine congrArg table (Table.ext_of_get? hn hkeys fun key => ?_)
      cases hx : Table.get? key es with
      | none =>
        rw [Table.get?_eq_none_iff, hkeys] at hx
        exact (Table.get?_eq_none_iff.2 hx).symm
      | some x =>
        have hget := get?_outlineEntries key fs
        rw [← ho, get?_outlineEntries, hx] at hget
        obtain ⟨y, hy, hxy⟩ := Option.map_eq_some_iff.1 hget.symm
        have hstep : ∀ path leaf, x.follow? path = some leaf → leaf.isTable = false →
            y.follow? path = some leaf := by
          intro path leaf hp hl
          have hes : (table es).follow? (key :: path) = some leaf := by
            rw [follow?_table_cons, hx]
            exact hp
          have hfs := h _ _ hes hl
          rwa [follow?_table_cons, hy] at hfs
        have heq : x = y := ih (key, x) (Table.mem_of_get? hx) hxy.symm hstep
        rw [hy, heq]
    | _ => cases ho

end Value

end ChangeFeed
