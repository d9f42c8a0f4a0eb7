import ChangeFeed.Config.Merge
import ChangeFeed.Config.Overrides
import ChangeFeed.Proofs.Outcome
import ChangeFeed.Proofs.Text.Lines
import ChangeFeed.Proofs.Value.Distinct

/-!
# Variables set the settings that they name

Underscores stand between the keys of a path and inside of keys. Where no key of a table has the
parts of another one at the start of its own (`Addressable`), the parts of a name still lead to one
path at most: the key that a search finds is the only one that fits (`keyFor?_eq_some_iff`). So one
variable replaces the leaf that it names and keeps every other leaf and the outline
(`exists_override_eq_ok`), and of several variables the last one that names a leaf decides what it
is (`Settled`, by the same step for each of them).
-/

namespace ChangeFeed.Config

/-! ### What variables name -/

/-- Neither of two keys has the parts of the other one at the start of its own. -/
def IsApart (a b : Text) : Prop :=
  ¬nameParts a <+: nameParts b ∧ ¬nameParts b <+: nameParts a

instance (a b : Text) : Decidable (IsApart a b) :=
  inferInstanceAs (Decidable (_ ∧ _))

/-- The keys of every table are texts that are not empty and pairwise apart. -/
inductive Addressable : Value → Prop
  | leaf {v : Value} : v.isTable = false → Addressable v
  | table {es : Table} {names : List Text} : es.keys = names.map .text → (∀ t ∈ names, t ≠ []) →
      names.Pairwise IsApart → (∀ e ∈ es, Addressable e.2) → Addressable (.table es)

/-- A path leads to a value that is no table. -/
def HasLeaf (config : Value) (path : List Text) (leaf : Value) : Prop :=
  config.follow? (path.map .text) = some leaf ∧ leaf.isTable = false

/-- A variable names a path: in small letters, its name is that of the keys with underscores
between them, behind the start of all such names. -/
def Names (name : Text) (path : List Text) : Prop :=
  name ≠ fileVariable ∧
    ∃ rest, name = variableStart ++ rest ∧ Text.lower rest = Text.join ['_'] path

instance (name : Text) (path : List Text) : Decidable (Names name path) :=
  decidable_of_iff (name ≠ fileVariable ∧
      ∃ rest ∈ Text.rest? variableStart name, Text.lower rest = Text.join ['_'] path) <| by
    simp [Names, Text.rest?_eq_some_iff]

/-- The text of the last variable that names a path. -/
def lastNaming? (environment : List (Text × Text)) (path : List Text) : Option Text :=
  (environment.reverse.find? fun e => Names e.1 path).map Prod.snd

/-- What a leaf becomes: what the last variable that names its path stands for, or else what it
is. -/
def settingIn (environment : List (Text × Text)) (path : List Text) (leaf : Value) :
    Except Numeral.Problem Value :=
  (lastNaming? environment path).elim (.ok leaf) valueOf

variable {config v w leaf : Value} {t : Table} {name key : Text} {path parts keys : List Text}
  {environment : List (Text × Text)}

/-! ### Parts of names -/

theorem join_nameParts (t : Text) : Text.join ['_'] (nameParts t) = t :=
  List.intercalate_splitOn '_'

theorem nameParts_injective {a b : Text} (h : nameParts a = nameParts b) : a = b := by
  rw [← join_nameParts a, h, join_nameParts]

theorem nameParts_ne_nil (t : Text) : nameParts t ≠ [] := List.splitOn_ne_nil _ _

theorem nameParts_join (h : path ≠ []) :
    nameParts (Text.join ['_'] path) = path.flatMap nameParts := by
  induction path with
  | nil => exact absurd rfl h
  | cons key path ih =>
    rw [Text.join_cons, List.flatMap_cons]
    split
    · next hp =>
      rw [hp, List.append_nil, List.flatMap_nil, List.append_nil]
    · next hp =>
      rw [← ih hp]
      exact List.splitOn_append_cons_self _ _

theorem names_iff (h : path ≠ []) :
    Names name path ↔ pathOf? name = some (path.flatMap nameParts) := by
  rw [← nameParts_join h, Names, pathOf?]
  by_cases hf : name = fileVariable
  · simp [hf]
  · rw [if_neg hf, Option.map_eq_some_iff]
    constructor
    · rintro ⟨-, rest, hn, hl⟩
      exact ⟨rest, Text.rest?_eq_some_iff.2 hn, by rw [hl]⟩
    · rintro ⟨rest, hn, hl⟩
      exact ⟨hf, rest, Text.rest?_eq_some_iff.1 hn, nameParts_injective hl⟩

/-- Variables that name one path differ at most in their letters' case. -/
theorem Names.map_lower_eq {other : Text} (h : Names name path) (h' : Names other path) :
    (Text.rest? variableStart name).map Text.lower =
      (Text.rest? variableStart other).map Text.lower := by
  obtain ⟨-, rest, hn, hl⟩ := h
  obtain ⟨-, rest', hn', hl'⟩ := h'
  rw [Text.rest?_eq_some_iff.2 hn, Text.rest?_eq_some_iff.2 hn', Option.map_some, Option.map_some,
    hl, hl']

theorem pathOf?_ne_nil (h : pathOf? name = some parts) : parts ≠ [] := by
  rw [pathOf?] at h
  split at h
  · cases h
  · obtain ⟨rest, -, rfl⟩ := Option.map_eq_some_iff.1 h
    exact nameParts_ne_nil _

theorem keyFor?_eq_some_iff (hne : ∀ k ∈ keys, k ≠ []) (hp : keys.Pairwise IsApart) :
    keyFor? keys parts = some key ↔ key ∈ keys ∧ nameParts key <+: parts := by
  have hfit : ∀ k, k ∈ keys.filter (fun k => (nameParts k).isPrefixOf parts) ↔
      k ∈ keys ∧ nameParts k <+: parts := by
    intro k
    rw [List.mem_filter, List.isPrefixOf_iff_prefix]
  have hapart := hp.filter fun k => (nameParts k).isPrefixOf parts
  rw [← hfit, keyFor?]
  cases hl : keys.filter fun k => (nameParts k).isPrefixOf parts with
  | nil => simp
  | cons a l =>
    rw [hl] at hapart hfit
    have ha := (hfit a).1 List.mem_cons_self
    cases l with
    | nil =>
      have hsome : (Option.some a).filter (· ≠ []) = some a := by
        rw [Option.filter_eq_some_iff]
        exact ⟨rfl, decide_eq_true (hne a ha.1)⟩
      rw [List.foldl_cons, List.foldl_nil, longerKey, hsome, List.mem_singleton, Option.some.injEq]
      exact eq_comm
    | cons b l =>
      -- two keys that fit the start of one path are not apart
      have hb := (hfit b).1 (List.mem_cons_of_mem _ List.mem_cons_self)
      have hab := (List.pairwise_cons.1 hapart).1 b List.mem_cons_self
      rcases List.prefix_or_prefix_of_prefix ha.2 hb.2 with h | h
      · exact absurd h hab.1
      · exact absurd h hab.2

theorem searched_map_text (keys : List Text) : searched (keys.map .text) = .ok keys := by
  induction keys with
  | nil => rfl
  | cons k ks ih =>
    rw [List.map_cons, searched, ih]
    rfl

/-! ### Addressable values -/

theorem Addressable.of_outline_eq (h : Addressable v) (ho : w.outline = v.outline) :
    Addressable w := by
  induction h generalizing w with
  | @leaf v hv =>
    refine .leaf ?_
    rw [← Value.isTable_outline, ho, Value.isTable_outline]
    exact hv
  | @table es names hkeys hne hp _ ih =>
    cases w with
    | table fs =>
      have ho : Value.outlineEntries fs = Value.outlineEntries es := Value.table.inj ho
      refine .table ?_ hne hp ?_
      · rw [← Value.keys_outlineEntries, ho, Value.keys_outlineEntries, hkeys]
      · intro f hf
        have hmem : (f.1, f.2.outline) ∈ Value.outlineEntries es := by
          rw [← ho, Value.outlineEntries_eq_map]
          exact List.mem_map_of_mem hf
        rw [Value.outlineEntries_eq_map] at hmem
        obtain ⟨e, he, heq⟩ := List.mem_map.1 hmem
        exact ih e he (Prod.mk.inj heq).2.symm
    | _ => exact .leaf rfl

theorem Addressable.isDistinct (h : Addressable v) : v.IsDistinct := by
  induction h with
  | leaf hv => exact .leaf hv
  | table hkeys _ hp _ ih =>
    refine .table ?_ ih
    rw [hkeys]
    refine List.pairwise_map.2 (hp.imp ?_)
    intro a b hab heq
    obtain rfl := Key.text.inj heq
    exact hab.1 List.prefix_rfl

theorem Addressable.exists_path (h : Addressable v) {path : List Key} {w : Value}
    (hw : v.follow? path = some w) : ∃ texts : List Text, path = texts.map .text := by
  induction h generalizing path with
  | leaf hv => exact ⟨[], Value.path_eq_nil_of_isTable hv hw⟩
  | table hkeys _ _ _ ih =>
    cases path with
    | nil => exact ⟨[], rfl⟩
    | cons key path =>
      rw [Value.follow?_table_cons] at hw
      obtain ⟨x, hx, hw⟩ := Option.bind_eq_some_iff.1 hw
      have hmem := Table.mem_of_get? hx
      obtain ⟨texts, rfl⟩ := ih _ hmem hw
      have hkey := Table.mem_keys_of_mem hmem
      rw [hkeys] at hkey
      obtain ⟨text, -, rfl⟩ := List.mem_map.1 hkey
      exact ⟨text :: texts, rfl⟩

theorem HasLeaf.path_eq_nil (h : HasLeaf v path leaf) (hv : v.isTable = false) : path = [] :=
  List.map_eq_nil_iff.1 (Value.path_eq_nil_of_isTable hv h.1)

theorem hasLeaf_table_iff : HasLeaf (.table t) path leaf ↔
    ∃ key rest w, path = key :: rest ∧ t.get? (.text key) = some w ∧ HasLeaf w rest leaf := by
  constructor
  · rintro ⟨h, hl⟩
    cases path with
    | nil =>
      obtain rfl := Option.some.inj h
      cases hl
    | cons key rest =>
      rw [List.map_cons, Value.follow?_table_cons] at h
      obtain ⟨w, hw, h⟩ := Option.bind_eq_some_iff.1 h
      exact ⟨key, rest, w, rfl, hw, h, hl⟩
  · rintro ⟨key, rest, w, rfl, hw, h, hl⟩
    refine ⟨?_, hl⟩
    rw [List.map_cons, Value.follow?_table_cons, hw]
    exact h

theorem HasLeaf.of_outline_eq (h : HasLeaf v path leaf) (ho : v.outline = w.outline) :
    ∃ leaf, HasLeaf w path leaf := by
  have hw := Value.follow?_outline w (path.map .text)
  rw [← ho, Value.follow?_outline, h.1] at hw
  obtain ⟨leaf', hleaf, hout⟩ := Option.map_eq_some_iff.1 hw.symm
  refine ⟨leaf', hleaf, ?_⟩
  rw [← Value.isTable_outline, hout, Value.isTable_outline]
  exact h.2

/-! ### One variable -/

/-- The leaf at the path with the given parts is replaced by `new`, and nothing else is. -/
structure Replaces (parts : List Text) (new before after : Value) : Prop where
  outline : after.outline = before.outline
  leaf : ∀ {path leaf}, HasLeaf before path leaf →
    HasLeaf after path (if path.flatMap nameParts = parts then new else leaf)

theorem Replaces.refl {new : Value}
    (h : ∀ path leaf, HasLeaf v path leaf → path.flatMap nameParts ≠ parts) :
    Replaces parts new v v where
  outline := rfl
  leaf {path leaf} hl := by
    rw [if_neg (h path leaf hl)]
    exact hl

theorem Replaces.leaf_self {new : Value} (hv : v.isTable = false) (hnew : new.isTable = false) :
    Replaces [] new v new where
  outline := by rw [Value.outline_of_isTable hv, Value.outline_of_isTable hnew]
  leaf {path leaf} hl := by
    rw [hl.path_eq_nil hv]
    exact ⟨Value.follow?_nil new, hnew⟩

theorem outlineEntries_set {key : Key} (h : t.get? key = some v) (ho : w.outline = v.outline) :
    Value.outlineEntries (t.set key w) = Value.outlineEntries t := by
  induction t with
  | nil => cases h
  | cons e t ih =>
    obtain ⟨k, x⟩ := e
    by_cases hk : k = key
    · rw [Table.get?, if_pos hk] at h
      rw [Table.set, if_pos hk, Value.outlineEntries, Value.outlineEntries, ho, Option.some.inj h]
    · rw [Table.get?, if_neg hk] at h
      rw [Table.set, if_neg hk, Value.outlineEntries, Value.outlineEntries, ih h]

theorem Replaces.set {new : Value} (hget : t.get? (.text key) = some v)
    (honly : ∀ k w, t.get? (.text k) = some w → nameParts k <+: nameParts key ++ parts → k = key)
    (h : Replaces parts new v w) :
    Replaces (nameParts key ++ parts) new (.table t) (.table (t.set (.text key) w)) where
  outline := congrArg Value.table (outlineEntries_set hget h.outline)
  leaf {path leaf} hl := by
    obtain ⟨k, rest, x, rfl, hx, hl⟩ := hasLeaf_table_iff.1 hl
    rw [List.flatMap_cons]
    by_cases hk : k = key
    · subst hk
      obtain rfl : v = x := Option.some.inj (hget.symm.trans hx)
      simp only [List.append_cancel_left_eq]
      exact hasLeaf_table_iff.2 ⟨k, rest, w, rfl, Table.get?_set_self _ _ _, h.leaf hl⟩
    · have hne : nameParts k ++ rest.flatMap nameParts ≠ nameParts key ++ parts := by
        intro heq
        exact hk (honly k x hx (heq ▸ List.prefix_append _ _))
      rw [if_neg hne]
      have hk' : Key.text k ≠ .text key := fun h => hk (Key.text.inj h)
      exact hasLeaf_table_iff.2 ⟨k, rest, x, rfl, by rw [Table.get?_set_of_ne hk', hx], hl⟩

theorem keyFor?_cases {names : List Text} (hkeys : t.keys = names.map .text)
    (hne : ∀ k ∈ names, k ≠ []) (hp : names.Pairwise IsApart) (parts : List Text) :
    (keyFor? names parts = none ∧ ∀ k w, t.get? (.text k) = some w → ¬nameParts k <+: parts) ∨
      ∃ key rest w, parts = nameParts key ++ rest ∧ keyFor? names parts = some key ∧
        t.get? (.text key) = some w ∧
        ∀ k x, t.get? (.text k) = some x → nameParts k <+: parts → k = key := by
  have hmem : ∀ k w, t.get? (.text k) = some w → k ∈ names := by
    intro k w hw
    have hk := Table.mem_keys_of_mem (Table.mem_of_get? hw)
    rw [hkeys] at hk
    obtain ⟨k', hk', heq⟩ := List.mem_map.1 hk
    exact Key.text.inj heq ▸ hk'
  have hfits : ∀ k w, t.get? (.text k) = some w → nameParts k <+: parts →
      keyFor? names parts = some k := by
    intro k w hw hk
    exact (keyFor?_eq_some_iff hne hp).2 ⟨hmem k w hw, hk⟩
  cases hfound : keyFor? names parts with
  | none =>
    refine .inl ⟨rfl, ?_⟩
    intro k w hw hk
    rw [hfits k w hw hk] at hfound
    cases hfound
  | some key =>
    obtain ⟨hkey, rest, hrest⟩ := (keyFor?_eq_some_iff hne hp).1 hfound
    obtain ⟨w, hw⟩ : ∃ w, t.get? (.text key) = some w := by
      refine Option.ne_none_iff_exists'.1 fun hnone => ?_
      rw [Table.get?_eq_none_iff, hkeys] at hnone
      exact hnone (List.mem_map_of_mem hkey)
    refine .inr ⟨key, rest, w, hrest.symm, rfl, hw, ?_⟩
    intro k x hx hk
    have := hfits k x hx hk
    rw [hfound] at this
    exact (Option.some.inj this).symm

/-- A search along the parts of a name ends, by induction on how many of them can be left. -/
theorem exists_replaceAt_eq_ok {new : Value} (hnew : new.isTable = false) {fuel : Nat}
    (hc : Addressable (.table t)) (hparts : parts ≠ []) (hfuel : parts.length ≤ fuel)
    (hleaf : ∀ path : List Text, path.flatMap nameParts = parts → ∀ v,
      (Value.table t).follow? (path.map .text) = some v → v.isTable = false) :
    ∃ after, replaceAt new fuel parts t = .ok after ∧
      Replaces parts new (.table t) (.table after) := by
  induction fuel generalizing parts t with
  | zero => exact absurd (List.length_eq_zero_iff.1 (by omega)) hparts
  | succ fuel ih =>
    cases hc with
    | leaf h => cases h
    | @table _ names hkeys hne hp hes =>
      simp only [replaceAt, hkeys, searched_map_text]
      rcases keyFor?_cases hkeys hne hp parts with
        ⟨hfound, hnone⟩ | ⟨key, rest, w, rfl, hfound, hw, honly⟩
      · simp only [hfound]
        refine ⟨t, rfl, .refl ?_⟩
        intro path leaf hl heq
        obtain ⟨k, rest, x, rfl, hx, -⟩ := hasLeaf_table_iff.1 hl
        exact hnone k x hx ⟨_, heq⟩
      · have hlength : 0 < (nameParts key).length :=
          List.length_pos_iff.2 (nameParts_ne_nil key)
        rw [List.length_append] at hfuel
        simp only [hfound, List.drop_left]
        cases rest with
        | nil =>
          -- the name ends at this key
          have hwleaf : w.isTable = false := by
            refine hleaf [key] (List.flatMap_cons ..) w ?_
            rw [List.map_cons, List.map_nil, Value.follow?_table_cons, hw]
            exact Value.follow?_nil w
          exact ⟨_, rfl, .set hw honly (.leaf_self hwleaf hnew)⟩
        | cons part rest =>
          simp only [hw]
          cases w with
          | table inner =>
            have hinner : ∀ path : List Text, path.flatMap nameParts = part :: rest → ∀ v,
                (Value.table inner).follow? (path.map .text) = some v → v.isTable = false := by
              intro path heq v hv
              refine hleaf (key :: path) (by rw [List.flatMap_cons, heq]) v ?_
              rw [List.map_cons, Value.follow?_table_cons, hw]
              exact hv
            obtain ⟨after, hafter, hr⟩ := ih (hes _ (Table.mem_of_get? hw)) (List.cons_ne_nil _ _)
              (by omega) hinner
            refine ⟨_, ?_, .set hw honly hr⟩
            show (replaceAt new fuel (part :: rest) inner).map _ = _
            rw [hafter]
            rfl
          | _ =>
            -- the name goes on behind a leaf
            refine ⟨t, rfl, .refl ?_⟩
            intro path leaf hl heq
            obtain ⟨k, more, x, rfl, hx, hl⟩ := hasLeaf_table_iff.1 hl
            obtain rfl := honly k x hx ⟨_, heq⟩
            obtain rfl := Option.some.inj (hw.symm.trans hx)
            obtain rfl := hl.path_eq_nil rfl
            simp at heq

theorem isTable_of_valueOf {text : Text} (h : valueOf text = .ok v) : v.isTable = false := by
  simp only [valueOf] at h
  split at h
  · obtain rfl := Except.ok.inj h
    rfl
  · split at h
    · obtain rfl := Except.ok.inj h
      rfl
    · split at h
      · cases hn : Numeral.read text with
        | error e =>
          rw [hn] at h
          cases h
        | ok n =>
          rw [hn] at h
          obtain rfl := Except.ok.inj h
          rfl
      · obtain rfl := Except.ok.inj h
        rfl

theorem exists_valueOf_eq_ok {text : Text}
    (h : Text.isDigitText text → ∃ n, Numeral.read text = .ok n) : ∃ v, valueOf text = .ok v := by
  simp only [valueOf]
  split
  · exact ⟨_, rfl⟩
  · split
    · exact ⟨_, rfl⟩
    · split
      · next hd =>
        obtain ⟨n, hn⟩ := h hd
        rw [hn]
        exact ⟨_, rfl⟩
      · exact ⟨_, rfl⟩

/-! ### All variables -/

/-- Every leaf is what the variables make of it, and the outline is kept. -/
structure Settled (environment : List (Text × Text)) (before after : Value) : Prop where
  outline : after.outline = before.outline
  leaf : ∀ {path leaf}, HasLeaf before path leaf →
    ∃ now, HasLeaf after path now ∧ settingIn environment path leaf = .ok now

theorem Settled.nil (v : Value) : Settled [] v v := ⟨rfl, fun hl => ⟨_, hl, rfl⟩⟩

theorem lastNaming?_cons (e : Text × Text) (environment : List (Text × Text)) (path : List Text) :
    lastNaming? (e :: environment) path =
      (lastNaming? environment path).or (lastNaming? [e] path) := by
  rw [lastNaming?, List.reverse_cons, List.find?_append, Option.map_or]
  rfl

theorem Settled.cons {e : Text × Text} {u v w : Value} (h : Settled [e] u v)
    (hs : Settled environment v w) : Settled (e :: environment) u w where
  outline := hs.outline.trans h.outline
  leaf {path leaf} hl := by
    obtain ⟨mid, hmid, he⟩ := h.leaf hl
    obtain ⟨now, hnow, hrest⟩ := hs.leaf hmid
    refine ⟨now, hnow, ?_⟩
    rw [settingIn, lastNaming?_cons]
    rw [settingIn] at he hrest
    cases hlast : lastNaming? environment path with
    | none =>
      rw [hlast] at hrest
      obtain rfl := Except.ok.inj hrest
      exact he
    | some text =>
      rw [hlast] at hrest
      exact hrest

/-- No variable names a table, and the whole numbers among the texts of variables are read. -/
structure Admits (config : Value) (environment : List (Text × Text)) : Prop where
  read : ∀ e ∈ environment, Text.startsWith variableStart e.1 → Text.isDigitText e.2 →
    ∃ n, Numeral.read e.2 = .ok n
  leaf : ∀ e ∈ environment, ∀ path v, path ≠ [] → Names e.1 path →
    config.follow? (path.map .text) = some v → v.isTable = false

theorem Admits.of_outline_eq (h : Admits v environment) (ho : w.outline = v.outline) :
    Admits w environment where
  read := h.read
  leaf e he path x hne hnames hx := by
    have hv := Value.follow?_outline v (path.map .text)
    rw [← ho, Value.follow?_outline, hx] at hv
    obtain ⟨y, hy, hout⟩ := Option.map_eq_some_iff.1 hv.symm
    rw [← Value.isTable_outline, ← hout, Value.isTable_outline]
    exact h.leaf e he path y hne hnames hy

theorem override_eq_of_valueOf {e : Text × Text} {new : Value} (hparts : pathOf? e.1 = some parts)
    (hnew : valueOf e.2 = .ok new) : override (.table t) e =
      ((replaceAt new parts.length parts t).mapError Failure.misuse).map .table := by
  simp only [override, hparts, hnew, ← bind_ok_eq_map]
  rfl

theorem exists_override_eq_ok {e : Text × Text} (hc : Addressable (.table t))
    (ha : Admits (.table t) [e]) :
    ∃ after, override (.table t) e = .ok (.table after) ∧
      Settled [e] (.table t) (.table after) := by
  have hnot : ∀ {path}, ¬Names e.1 path → lastNaming? [e] path = none := by
    intro path h
    simp [lastNaming?, h]
  cases hparts : pathOf? e.1 with
  | none =>
    refine ⟨t, by rw [override, hparts], rfl, ?_⟩
    intro path leaf hl
    obtain ⟨key, rest, -, rfl, -⟩ := hasLeaf_table_iff.1 hl
    refine ⟨leaf, hl, ?_⟩
    rw [settingIn, hnot]
    · rfl
    · rw [names_iff (List.cons_ne_nil _ _), hparts]
      exact nofun
  | some parts =>
    have hstart : Text.startsWith variableStart e.1 := by
      rw [pathOf?] at hparts
      split at hparts
      · cases hparts
      · obtain ⟨rest, hrest, -⟩ := Option.map_eq_some_iff.1 hparts
        rw [Text.startsWith, hrest]
        rfl
    have hne := pathOf?_ne_nil hparts
    obtain ⟨new, hnew⟩ := exists_valueOf_eq_ok (ha.read e List.mem_cons_self hstart)
    have hleaf : ∀ path : List Text, path.flatMap nameParts = parts → ∀ v,
        (Value.table t).follow? (path.map .text) = some v → v.isTable = false := by
      intro path heq v hv
      have hpath : path ≠ [] := by
        rintro rfl
        exact hne heq.symm
      refine ha.leaf e List.mem_cons_self path v hpath ?_ hv
      rw [names_iff hpath, hparts, heq]
    obtain ⟨after, hafter, hr⟩ := exists_replaceAt_eq_ok (isTable_of_valueOf hnew) hc hne
      (Nat.le_refl _) hleaf
    refine ⟨after, ?_, hr.outline, ?_⟩
    · rw [override_eq_of_valueOf hparts hnew, hafter]
      rfl
    · intro path leaf hl
      refine ⟨_, hr.leaf hl, ?_⟩
      obtain ⟨key, rest, -, rfl, -⟩ := hasLeaf_table_iff.1 hl
      have hiff : Names e.1 (key :: rest) ↔ _ := names_iff (List.cons_ne_nil key rest)
      rw [hparts, Option.some.injEq] at hiff
      rw [settingIn]
      by_cases hpath : (key :: rest).flatMap nameParts = parts
      · have hlast : lastNaming? [e] (key :: rest) = some e.2 := by
          simp [lastNaming?, hiff.2 hpath.symm]
        rw [hlast, if_pos hpath]
        exact hnew
      · have hlast := hnot fun h => hpath (hiff.1 h).symm
        rw [hlast, if_neg hpath]
        rfl

theorem exists_overrideAll_eq_ok (hc : Addressable (.table t))
    (ha : Admits (.table t) environment) :
    ∃ after, overrideAll environment (.table t) = .ok (.table after) ∧
      Settled environment (.table t) (.table after) := by
  induction environment generalizing t with
  | nil => exact ⟨t, rfl, .nil _⟩
  | cons e environment ih =>
    have hone : Admits (.table t) [e] :=
      ⟨fun f hf => ha.read f (List.mem_singleton.1 hf ▸ List.mem_cons_self),
        fun f hf => ha.leaf f (List.mem_singleton.1 hf ▸ List.mem_cons_self)⟩
    have hrest : Admits (.table t) environment :=
      ⟨fun f hf => ha.read f (List.mem_cons_of_mem _ hf),
        fun f hf => ha.leaf f (List.mem_cons_of_mem _ hf)⟩
    obtain ⟨mid, hmid, h⟩ := exists_override_eq_ok hc hone
    obtain ⟨after, hafter, hs⟩ := ih (hc.of_outline_eq h.outline) (hrest.of_outline_eq h.outline)
    refine ⟨after, ?_, h.cons hs⟩
    rw [overrideAll, List.foldlM_cons, hmid]
    exact hafter

/-! ### The order of the variables -/

theorem find?_eq_of_perm {α : Type} {p : α → Bool} {l l' : List α} (h : l'.Perm l)
    (hp : l.Pairwise fun a b => ¬(p a = true ∧ p b = true)) : l'.find? p = l.find? p := by
  induction h with
  | nil => rfl
  | cons a _ ih =>
    rw [List.find?_cons, List.find?_cons, ih (List.pairwise_cons.1 hp).2]
  | swap a b l =>
    have hab := (List.pairwise_cons.1 hp).1 b List.mem_cons_self
    rw [List.find?_cons, List.find?_cons, List.find?_cons, List.find?_cons]
    cases ha : p a with
    | false => rfl
    | true =>
      cases hb : p b with
      | false => rfl
      | true => exact absurd ⟨ha, hb⟩ hab
  | trans _ h₂ ih₁ ih₂ =>
    have hmid := (h₂.pairwise_iff fun h hba => h hba.symm).2 hp
    rw [ih₁ hmid, ih₂ hp]

theorem lastNaming?_eq_of_perm {other : List (Text × Text)} (h : other.Perm environment)
    (hp : environment.Pairwise fun a b => ¬(Names a.1 path ∧ Names b.1 path)) :
    lastNaming? other path = lastNaming? environment path := by
  have hperm : other.reverse.Perm environment.reverse :=
    (List.reverse_perm other).trans (h.trans (List.reverse_perm environment).symm)
  have hpair : environment.reverse.Pairwise
      fun a b => ¬(decide (Names a.1 path) = true ∧ decide (Names b.1 path) = true) := by
    rw [List.pairwise_reverse]
    refine hp.imp ?_
    intro a b hab hboth
    exact hab ⟨of_decide_eq_true hboth.2, of_decide_eq_true hboth.1⟩
  rw [lastNaming?, lastNaming?, find?_eq_of_perm hperm hpair]

theorem Settled.eq {other : List (Text × Text)} {u : Value} (hc : Addressable v)
    (h : Settled environment v w) (h' : Settled other v u)
    (hsame : ∀ path leaf, HasLeaf v path leaf →
      settingIn other path leaf = settingIn environment path leaf) : u = w := by
  have hu : Addressable u := hc.of_outline_eq h'.outline
  refine Value.eq_of_outline_eq hu.isDistinct (h'.outline.trans h.outline.symm) ?_
  intro path now hnow hleaf
  obtain ⟨texts, rfl⟩ := hu.exists_path hnow
  obtain ⟨leaf, hl⟩ := HasLeaf.of_outline_eq ⟨hnow, hleaf⟩ h'.outline
  obtain ⟨now', hnow', hset'⟩ := h'.leaf hl
  obtain ⟨now'', hnow'', hset⟩ := h.leaf hl
  obtain rfl : now' = now := Option.some.inj (hnow'.1.symm.trans hnow)
  rw [hsame _ _ hl, hset] at hset'
  obtain rfl := Except.ok.inj hset'
  exact hnow''.1

/-- Every variable sets the leaf that it names, and nothing else is changed: the outline stays, and
each leaf is what the last variable that names its path stands for. If no two variables name one
leaf, their order does not matter. -/
theorem overrideAll_settles {config : Table} {environment : List (Text × Text)}
    (hc : Addressable (.table config)) (ha : Admits (.table config) environment) :
    ∃ result, overrideAll environment (.table config) = .ok result ∧
      result.outline = (Value.table config).outline ∧
      (∀ path leaf, HasLeaf (.table config) path leaf →
        ∃ now, HasLeaf result path now ∧ settingIn environment path leaf = .ok now) ∧
      ∀ other : List (Text × Text), other.Perm environment →
        (environment.Pairwise fun a b => ∀ path leaf, HasLeaf (.table config) path leaf →
          ¬(Names a.1 path ∧ Names b.1 path)) →
        overrideAll other (.table config) = .ok result := by
  obtain ⟨after, hafter, hs⟩ := exists_overrideAll_eq_ok hc ha
  refine ⟨.table after, hafter, hs.outline, fun _ _ => hs.leaf, ?_⟩
  intro other hperm hpair
  have ha' : Admits (.table config) other :=
    ⟨fun e he => ha.read e (hperm.mem_iff.1 he), fun e he => ha.leaf e (hperm.mem_iff.1 he)⟩
  obtain ⟨after', hafter', hs'⟩ := exists_overrideAll_eq_ok hc ha'
  have heq : Value.table after' = .table after := by
    refine hs.eq hc hs' ?_
    intro path leaf hl
    rw [settingIn, settingIn, lastNaming?_eq_of_perm hperm]
    exact hpair.imp fun h => h path leaf hl
  rw [hafter', heq]

/-! ### The defaults -/

theorem Addressable.of_leaves {es : Table} (names : List Text) (hkeys : es.keys = names.map .text)
    (hne : ∀ t ∈ names, t ≠ []) (hp : names.Pairwise IsApart)
    (hes : ∀ e ∈ es, e.2.isTable = false) : Addressable (.table es) :=
  .table hkeys hne hp fun e he => .leaf (hes e he)

theorem addressable_defaults : Addressable (.table defaults) := by
  have hkeys : Table.keys defaults =
      (["git", "ctags", "references", "events", "logging"] : List Text).map .text := rfl
  refine .table hkeys (by decide) (by decide) ?_
  simp only [defaults, List.forall_mem_cons]
  refine ⟨?_, ?_, ?_, ?_, ?_, nofun⟩
  · exact .of_leaves ["remote", "timeout_seconds"] rfl (by decide) (by decide) (by decide)
  · exact .of_leaves ["command", "format", "timeout_seconds"] rfl (by decide) (by decide)
      (by decide)
  · exact .of_leaves ["enabled", "markup", "ignore_extra"] rfl (by decide) (by decide)
      (by decide)
  · exact .of_leaves ["commit_url_template"] rfl (by decide) (by decide) (by decide)
  · exact .of_leaves ["level", "format"] rfl (by decide) (by decide) (by decide)

theorem isTable_follow?_defaults (h : (Value.table defaults).follow? (path.map .text) = some v)
    (hv : v.isTable = true) : path = [] ∨ ∃ name ∈ Key.texts defaults.keys, path = [name] := by
  cases path with
  | nil => exact .inl rfl
  | cons key rest =>
    right
    rw [List.map_cons, Value.follow?_table_cons] at h
    obtain ⟨w, hw, h⟩ := Option.bind_eq_some_iff.1 h
    have hmem := Table.mem_of_get? hw
    have hkey : key ∈ Key.texts defaults.keys :=
      List.mem_filterMap.2 ⟨.text key, Table.mem_keys_of_mem hmem, rfl⟩
    refine ⟨key, hkey, ?_⟩
    -- there is no table in a section
    have hfields : ∀ e ∈ defaults, ∀ es, e.2 = .table es → ∀ f ∈ es, f.2.isTable = false := by
      simp only [defaults, List.forall_mem_cons, Value.table.injEq, forall_eq', List.not_mem_nil,
        false_implies, implies_true, and_true]
      decide
    cases rest with
    | nil => rfl
    | cons field rest =>
      cases w with
      | table es =>
        rw [List.map_cons, Value.follow?_table_cons] at h
        obtain ⟨x, hx, h⟩ := Option.bind_eq_some_iff.1 h
        have hleaf : x.isTable = false := hfields _ hmem es rfl _ (Table.mem_of_get? hx)
        rw [Value.path_eq_nil_of_isTable hleaf h, Value.follow?_nil] at h
        obtain rfl := Option.some.inj h
        rw [hleaf] at hv
        cases hv
      | _ => cases h

/-- Variables of a shell: some of them name settings, in large and in small letters, and two of them
the same one. -/
def shellVariables : List (Text × Text) := [
  ("HOME", "/root"), ("DEFEVENTS_CONFIG", "7"), ("DEFEVENTS_GIT_TIMEOUT_SECONDS", "45"),
  ("DEFEVENTS_references_Ignore_Extra", "copy,move"), ("DEFEVENTS_REFERENCES_IGNORE", "copy"),
  ("DEFEVENTS_CTAGS_FORMAT_OF_TAGS", "etags"), ("DEFEVENTS_git_timeout_seconds", "60"),
  ("DEFEVENTS_REFERENCES_MARKUP", "No")]

theorem admits_shellVariables : Admits (.table defaults) shellVariables where
  read := by
    have hread : ∀ e ∈ shellVariables, Text.isDigitText e.2 = true →
        (Numeral.read e.2).toOption.isSome := by decide
    intro e he _ hd
    have := hread e he hd
    cases hn : Numeral.read e.2 with
    | error f =>
      rw [hn] at this
      cases this
    | ok n => exact ⟨n, rfl⟩
  leaf e he path v hne hnames hv := by
    have hnone : ∀ e ∈ shellVariables, ∀ name ∈ Key.texts defaults.keys, ¬Names e.1 [name] := by
      decide
    cases ht : v.isTable with
    | false => rfl
    | true =>
      rcases isTable_follow?_defaults hv ht with rfl | ⟨name, hname, rfl⟩
      · exact absurd rfl hne
      · exact absurd hnames (hnone e he name hname)

theorem overrideAll_settles_shellVariables :
    ∃ result, overrideAll shellVariables (.table defaults) = .ok result ∧
      HasLeaf result ["git", "remote"] (.text "origin") ∧
      HasLeaf result ["git", "timeout_seconds"] (.int 60) ∧
      HasLeaf result ["references", "ignore_extra"] (.text "copy,move") ∧
      HasLeaf result ["references", "markup"] (.bool false) ∧
      ∀ other : List (Text × Text), other.Perm (shellVariables.drop 3) →
        overrideAll other (.table defaults) =
          overrideAll (shellVariables.drop 3) (.table defaults) := by
  have ha := admits_shellVariables
  obtain ⟨result, hresult, -, hleaf, -⟩ := overrideAll_settles addressable_defaults ha
  have hset : ∀ path leaf now, HasLeaf (.table defaults) path leaf →
      settingIn shellVariables path leaf = .ok now → HasLeaf result path now := by
    intro path leaf now hl hnow
    obtain ⟨now', hhas, hnow'⟩ := hleaf path leaf hl
    obtain rfl := Except.ok.inj (hnow'.symm.trans hnow)
    exact hhas
  refine ⟨result, hresult, hset _ (.text "origin") _ ⟨by rfl, by rfl⟩ (by rfl),
    hset _ (.int 30) _ ⟨by rfl, by rfl⟩ (by rfl), hset _ (.list []) _ ⟨by rfl, by rfl⟩ (by rfl),
    hset _ (.bool true) _ ⟨by rfl, by rfl⟩ (by rfl), ?_⟩
  intro other hperm
  have hrest : Admits (.table defaults) (shellVariables.drop 3) :=
    ⟨fun e he => ha.read e (List.mem_of_mem_drop he),
      fun e he => ha.leaf e (List.mem_of_mem_drop he)⟩
  obtain ⟨result, hresult, -, -, hother⟩ := overrideAll_settles addressable_defaults hrest
  rw [hresult]
  refine hother other hperm ?_
  have hcase : (shellVariables.drop 3).Pairwise fun a b =>
      (Text.rest? variableStart a.1).map Text.lower ≠
        (Text.rest? variableStart b.1).map Text.lower := by decide
  exact hcase.imp fun hne _ _ _ hboth => hne (hboth.1.map_lower_eq hboth.2)

end ChangeFeed.Config
