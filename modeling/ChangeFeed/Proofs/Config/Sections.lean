import ChangeFeed.Proofs.Config.Overrides

/-!
# Sections that variables replace

A variable may name a table as well as a setting: its name then ends at a key that leads to the
table, and the text of the variable stands in its place. So every table keeps its keys until a
variable names it, or a table that it is in (`Overwrites`), and no later variable brings it back
(`hasTable_overrideAll_iff`). Of the defaults these are the sections: one that is named has no
settings any more (`overrideAll_keeps_section_iff`).
-/

namespace ChangeFeed.Config

/-- A path leads to a table with the given keys. -/
def HasTable (config : Value) (path : List Text) (keys : List Key) : Prop :=
  ∃ es, config.follow? (path.map .text) = some (.table es) ∧ Table.keys es = keys

/-- The parts of a path up to one of its keys. -/
def LeadsThrough (parts path : List Text) : Prop :=
  ∃ front, front <+: path ∧ front.flatMap nameParts = parts

/-- A variable names a path, or one on the way to its end. -/
def Overwrites (name : Text) (path : List Text) : Prop :=
  ∃ front, front ≠ [] ∧ front <+: path ∧ Names name front

variable {v w new : Value} {t es : Table} {name key : Text} {path parts : List Text}
  {keys : List Key} {environment : List (Text × Text)}

theorem leadsThrough_nil (path : List Text) : LeadsThrough [] path := ⟨[], List.nil_prefix, rfl⟩

theorem not_leadsThrough (h : parts ≠ []) : ¬LeadsThrough parts [] := by
  rintro ⟨front, hfront, hparts⟩
  obtain rfl := List.prefix_nil.1 hfront
  exact h hparts.symm

theorem LeadsThrough.isPrefix (h : LeadsThrough parts (key :: path)) (hne : parts ≠ []) :
    nameParts key <+: parts := by
  obtain ⟨front, hfront, rfl⟩ := h
  cases front with
  | nil => exact absurd rfl hne
  | cons k front =>
    obtain ⟨rfl, -⟩ := List.cons_prefix_cons.1 hfront
    exact List.prefix_append _ _

theorem parts_ne_nil (key : Text) (parts : List Text) : nameParts key ++ parts ≠ [] :=
  List.append_ne_nil_of_left_ne_nil (nameParts_ne_nil key) parts

theorem leadsThrough_cons_iff : LeadsThrough (nameParts key ++ parts) (key :: path) ↔
    LeadsThrough parts path := by
  constructor
  · rintro ⟨front, hfront, hparts⟩
    cases front with
    | nil => exact absurd hparts.symm (parts_ne_nil key parts)
    | cons k front =>
      obtain ⟨rfl, hrest⟩ := List.cons_prefix_cons.1 hfront
      rw [List.flatMap_cons] at hparts
      exact ⟨front, hrest, List.append_cancel_left hparts⟩
  · rintro ⟨front, hfront, rfl⟩
    exact ⟨key :: front, List.cons_prefix_cons.2 ⟨rfl, hfront⟩, List.flatMap_cons⟩

theorem overwrites_singleton_iff : Overwrites name [key] ↔ Names name [key] := by
  constructor
  · rintro ⟨front, hne, hfront, hnames⟩
    cases front with
    | nil => exact absurd rfl hne
    | cons k front =>
      obtain ⟨rfl, hrest⟩ := List.cons_prefix_cons.1 hfront
      obtain rfl := List.prefix_nil.1 hrest
      exact hnames
  · intro h
    exact ⟨[key], List.cons_ne_nil _ _, List.prefix_rfl, h⟩

/-! ### Tables on paths -/

theorem hasTable_nil_iff : HasTable (.table t) [] keys ↔ t.keys = keys := by
  simp [HasTable]

theorem hasTable_cons_iff : HasTable (.table t) (key :: path) keys ↔
    ∃ w, t.get? (.text key) = some w ∧ HasTable w path keys := by
  rw [HasTable, List.map_cons, Value.follow?_table_cons]
  cases t.get? (.text key) <;> simp [HasTable]

theorem not_hasTable (h : v.isTable = false) (path : List Text) (keys : List Key) :
    ¬HasTable v path keys := by
  rintro ⟨es, hfollow, -⟩
  rw [Value.path_eq_nil_of_isTable h hfollow, Value.follow?_nil] at hfollow
  obtain rfl := Option.some.inj hfollow
  cases h

/-! ### One replacement -/

/-- The tables that the parts of a name do not lead to or through are as they were, and the others
are gone. -/
def Clears (parts : List Text) (before after : Value) : Prop :=
  ∀ path keys, HasTable after path keys ↔ HasTable before path keys ∧ ¬LeadsThrough parts path

theorem Clears.leaf (hnew : new.isTable = false) : Clears [] v new := by
  intro path keys
  simp only [leadsThrough_nil, not_true_eq_false, and_false, iff_false]
  exact not_hasTable hnew path keys

theorem Clears.refl (h : ∀ path keys, HasTable v path keys → ¬LeadsThrough parts path) :
    Clears parts v v := fun path keys => ⟨fun ht => ⟨ht, h path keys ht⟩, And.left⟩

theorem Clears.set (hget : t.get? (.text key) = some v)
    (honly : ∀ k w, t.get? (.text k) = some w → nameParts k <+: nameParts key ++ parts → k = key)
    (h : Clears parts v w) :
    Clears (nameParts key ++ parts) (.table t) (.table (t.set (.text key) w)) := by
  intro path keys
  cases path with
  | nil =>
    have hkey : Key.text key ∈ t.keys := Table.mem_keys_of_mem (Table.mem_of_get? hget)
    rw [hasTable_nil_iff, hasTable_nil_iff, Table.keys_set, if_pos hkey]
    exact (and_iff_left (not_leadsThrough (parts_ne_nil key parts))).symm
  | cons k path =>
    rw [hasTable_cons_iff, hasTable_cons_iff]
    by_cases hk : k = key
    · subst hk
      simp only [Table.get?_set_self, hget, Option.some.injEq, exists_eq_left',
        leadsThrough_cons_iff]
      exact h path keys
    · have hk' : Key.text k ≠ .text key := fun h => hk (Key.text.inj h)
      rw [Table.get?_set_of_ne hk']
      refine (and_iff_left_of_imp ?_).symm
      rintro ⟨x, hx, -⟩ hleads
      exact hk (honly k x hx (hleads.isPrefix (parts_ne_nil key parts)))

theorem mem_set {e : Key × Value} {k : Key} (h : e ∈ Table.set k v t) : e = (k, v) ∨ e ∈ t := by
  induction t with
  | nil => exact .inl (List.mem_singleton.1 h)
  | cons f t ih =>
    rw [Table.set] at h
    split at h
    · next hk =>
      rw [hk] at h
      exact (List.mem_cons.1 h).imp_right (List.mem_cons_of_mem _)
    · rcases List.mem_cons.1 h with rfl | h
      · exact .inr List.mem_cons_self
      · exact (ih h).imp_right (List.mem_cons_of_mem _)

theorem Addressable.set (h : Addressable (.table t)) (hget : t.get? (.text key) = some v)
    (hw : Addressable w) : Addressable (.table (t.set (.text key) w)) := by
  cases h with
  | leaf h => cases h
  | @table _ names hkeys hne hp hes =>
    have hkey : Key.text key ∈ t.keys := Table.mem_keys_of_mem (Table.mem_of_get? hget)
    refine .table (by rw [Table.keys_set, if_pos hkey, hkeys]) hne hp ?_
    intro e he
    rcases mem_set he with rfl | he
    · exact hw
    · exact hes e he

/-- A search along the parts of a name ends, and clears what it replaces, by induction on how many
parts can be left. -/
theorem exists_replaceAt_clears (hnew : new.isTable = false) {fuel : Nat}
    (hc : Addressable (.table t)) (hparts : parts ≠ []) (hfuel : parts.length ≤ fuel) :
    ∃ after, replaceAt new fuel parts t = .ok after ∧ Addressable (.table after) ∧
      Clears parts (.table t) (.table after) := by
  induction fuel generalizing parts t with
  | zero => exact absurd (List.length_eq_zero_iff.1 (by omega)) hparts
  | succ fuel ih =>
    cases hc with
    | leaf h => cases h
    | @table _ names hkeys hne hp hes =>
      have hc : Addressable (.table t) := .table hkeys hne hp hes
      simp only [replaceAt, hkeys, searched_map_text]
      rcases keyFor?_cases hkeys hne hp parts with
        ⟨hfound, hnone⟩ | ⟨key, rest, w, rfl, hfound, hw, honly⟩
      · simp only [hfound]
        refine ⟨t, rfl, hc, .refl ?_⟩
        intro path keys ht hleads
        cases path with
        | nil => exact not_leadsThrough hparts hleads
        | cons k path =>
          obtain ⟨x, hx, -⟩ := hasTable_cons_iff.1 ht
          exact hnone k x hx (hleads.isPrefix hparts)
      · have hlength : 0 < (nameParts key).length :=
          List.length_pos_iff.2 (nameParts_ne_nil key)
        rw [List.length_append] at hfuel
        simp only [hfound, List.drop_left]
        cases rest with
        | nil =>
          -- the name ends at this key, whatever stands there
          exact ⟨_, rfl, hc.set hw (.leaf hnew), .set hw honly (.leaf hnew)⟩
        | cons part rest =>
          simp only [hw]
          cases w with
          | table inner =>
            obtain ⟨after, hafter, haddr, hclears⟩ := ih (hes _ (Table.mem_of_get? hw))
              (List.cons_ne_nil part rest) (by omega)
            refine ⟨_, ?_, hc.set hw haddr, .set hw honly hclears⟩
            show (replaceAt new fuel (part :: rest) inner).map _ = _
            rw [hafter]
            rfl
          | _ =>
            -- the name goes on behind a leaf, where there are no tables
            refine ⟨t, rfl, hc, .refl ?_⟩
            intro path keys ht hleads
            cases path with
            | nil => exact not_leadsThrough hparts hleads
            | cons k path =>
              obtain ⟨x, hx, ht⟩ := hasTable_cons_iff.1 ht
              obtain rfl := honly k x hx (hleads.isPrefix hparts)
              obtain rfl := Option.some.inj (hw.symm.trans hx)
              exact not_hasTable rfl path keys ht

/-! ### All variables -/

theorem overwrites_iff : Overwrites name path ↔
    ∃ parts, pathOf? name = some parts ∧ LeadsThrough parts path := by
  constructor
  · rintro ⟨front, hne, hfront, hnames⟩
    exact ⟨_, (names_iff hne).1 hnames, front, hfront, rfl⟩
  · rintro ⟨parts, hparts, front, hfront, rfl⟩
    have hne : front ≠ [] := by
      rintro rfl
      exact pathOf?_ne_nil hparts rfl
    exact ⟨front, hne, hfront, (names_iff hne).2 hparts⟩

/-- One variable takes the tables that it names, with all that is in them, and no other ones. -/
theorem override_clears {e : Text × Text} (hc : Addressable (.table t))
    (h : override (.table t) e = .ok v) : ∃ after, v = .table after ∧ Addressable (.table after) ∧
      ∀ path keys, HasTable v path keys ↔ HasTable (.table t) path keys ∧ ¬Overwrites e.1 path := by
  simp only [overwrites_iff]
  cases hparts : pathOf? e.1 with
  | none =>
    rw [override, hparts] at h
    obtain rfl := Except.ok.inj h
    refine ⟨t, rfl, hc, fun path keys => ?_⟩
    simp
  | some parts =>
    obtain ⟨new, hnew⟩ : ∃ new, valueOf e.2 = .ok new := by
      rw [override, hparts] at h
      obtain ⟨new, hnew, -⟩ := bind_eq_ok_iff.1 h
      exact ⟨new, mapError_eq_ok_iff.1 hnew⟩
    obtain ⟨after, hafter, haddr, hclears⟩ := exists_replaceAt_clears (isTable_of_valueOf hnew) hc
      (pathOf?_ne_nil hparts) (Nat.le_refl _)
    rw [override_eq_of_valueOf hparts hnew, hafter] at h
    obtain rfl := Except.ok.inj h
    refine ⟨after, rfl, haddr, fun path keys => (hclears path keys).trans ?_⟩
    simp

theorem hasTable_overrideAll_iff (hc : Addressable (.table t))
    (h : overrideAll environment (.table t) = .ok v) : ∀ path keys, HasTable v path keys ↔
      HasTable (.table t) path keys ∧ ∀ e ∈ environment, ¬Overwrites e.1 path := by
  induction environment generalizing t with
  | nil =>
    obtain rfl := Except.ok.inj h
    simp
  | cons e environment ih =>
    rw [overrideAll, List.foldlM_cons] at h
    obtain ⟨w, hw, h⟩ := bind_eq_ok_iff.1 h
    obtain ⟨mid, rfl, haddr, hone⟩ := override_clears hc hw
    intro path keys
    rw [ih haddr h, hone, List.forall_mem_cons, and_assoc]

theorem not_overwrites_nil (name : Text) : ¬Overwrites name [] := by
  rintro ⟨front, hne, hfront, -⟩
  exact hne (List.prefix_nil.1 hfront)

theorem getD_of_isTable (h : v.isTable = false) (key : Key) (default : Value) :
    v.getD key default = .error (.noMember v.kindName "get") := by
  cases v with
  | table _ => cases h
  | _ => rfl

/-- Whatever the variables are, all sections are there. Each of them has its settings exactly if no
variable names it; in one that is named, nothing can be looked up. -/
theorem overrideAll_keeps_section_iff {result : Value}
    (h : overrideAll environment (.table defaults) = .ok result) :
    ∃ sections : Table, result = .table sections ∧ sections.keys = Table.keys defaults ∧
      ∀ name fields, Table.get? (.text name) defaults = some (.table fields) →
        ∃ settings, Table.get? (.text name) sections = some settings ∧
          ((∃ kept, settings = .table kept ∧ Table.keys kept = Table.keys fields) ↔
            ∀ e ∈ environment, ¬Names e.1 [name]) ∧
          ((∃ e ∈ environment, Names e.1 [name]) → ∀ key default,
            settings.getD key default = .error (.noMember settings.kindName "get")) := by
  have hkept := hasTable_overrideAll_iff addressable_defaults h
  obtain ⟨sections, hresult, hkeys⟩ : HasTable result [] (Table.keys defaults) :=
    (hkept _ _).2 ⟨hasTable_nil_iff.2 rfl, fun e _ => not_overwrites_nil e.1⟩
  rw [List.map_nil, Value.follow?_nil] at hresult
  obtain rfl := Option.some.inj hresult
  refine ⟨sections, rfl, hkeys, ?_⟩
  intro name fields hfields
  obtain ⟨settings, hsettings⟩ :
      ∃ settings, Table.get? (.text name) sections = some settings := by
    refine Option.ne_none_iff_exists'.1 fun hnone => ?_
    rw [Table.get?_eq_none_iff, hkeys] at hnone
    exact hnone (Table.mem_keys_of_mem (Table.mem_of_get? hfields))
  -- the section of the result is a table with some keys exactly if that of the defaults is one with
  -- the same keys and is not named
  have hsection : ∀ keys, HasTable settings [] keys ↔ Table.keys fields = keys ∧
      ∀ e ∈ environment, ¬Names e.1 [name] := by
    intro keys
    have hiff := hkept [name] keys
    simp only [hasTable_cons_iff, hsettings, hfields, Option.some.injEq, exists_eq_left',
      overwrites_singleton_iff, hasTable_nil_iff] at hiff
    exact hiff
  refine ⟨settings, hsettings, ?_, ?_⟩
  · constructor
    · rintro ⟨kept, rfl, hkept⟩
      exact ((hsection _).1 (hasTable_nil_iff.2 hkept)).2
    · intro hnone
      obtain ⟨kept, hfollow, hkept⟩ := (hsection _).2 ⟨rfl, hnone⟩
      rw [List.map_nil, Value.follow?_nil] at hfollow
      exact ⟨kept, Option.some.inj hfollow, hkept⟩
  · rintro ⟨e, he, hnames⟩
    refine getD_of_isTable ?_
    cases settings with
    | table kept => exact absurd hnames (((hsection _).1 (hasTable_nil_iff.2 rfl)).2 e he)
    | _ => rfl

/-- Variables of which one names a setting, and two name sections. -/
def sectionVariables : List (Text × Text) := [
  ("DEFEVENTS_GIT_TIMEOUT_SECONDS", "45"), ("DEFEVENTS_LOGGING", "debug"), ("DEFEVENTS_ctags", "7"),
  ("DEFEVENTS_LOGGING_LEVEL", "DEBUG")]

theorem overrideAll_keeps_section_sectionVariables :
    ∃ sections, overrideAll sectionVariables (.table defaults) = .ok (.table sections) ∧
      (∃ kept, Table.get? "git" sections = some (.table kept) ∧
        Table.keys kept = [.text "remote", .text "timeout_seconds"]) ∧
      ∃ settings, Table.get? "logging" sections = some settings ∧
        settings.getD "level" (.text "INFO") = .error (.noMember settings.kindName "get") := by
  obtain ⟨result, h⟩ :
      ∃ result, overrideAll sectionVariables (.table defaults) = .ok result := ⟨_, rfl⟩
  obtain ⟨sections, rfl, -, hsections⟩ := overrideAll_keeps_section_iff h
  refine ⟨sections, h, ?_, ?_⟩
  · obtain ⟨settings, hget, hkept, -⟩ := hsections "git" _ rfl
    obtain ⟨kept, rfl, hkeys⟩ := hkept.2 (by decide)
    exact ⟨kept, hget, hkeys⟩
  · obtain ⟨settings, hget, -, hnamed⟩ := hsections "logging" _ rfl
    exact ⟨settings, hget, hnamed (by decide) _ _⟩

end ChangeFeed.Config
