import ChangeFeed.Files.Tree

/-!
# Putting a file into a tree

A walk depends on the directories that it passes only (`walk_mono`), and what is put at a place
where no directory is takes none away (`directory_put`). So whatever could be reached still can be,
and a file is found with its content at the path at which it was written (`write_eq_put`,
`read_of_find?`).
-/

namespace ChangeFeed.FileTree

variable {t t' : FileTree} {place q r : List Text} {names : List Text} {p : Path} {n x : Node}
  {content : Text}

/-! ### What stands where -/

theorem lookup_filter_ne {l : List (List Text × Node)} (h : q ≠ place) :
    (l.filter fun m => m.1 != place).lookup q = l.lookup q := by
  induction l with
  | nil => rfl
  | cons m l ih =>
    obtain ⟨k, x⟩ := m
    by_cases hk : k = place
    · subst hk
      have hq : (q == k) = false := by simpa using h
      rw [List.filter_cons_of_neg (by simp), ih, List.lookup_cons, hq]
    · rw [List.filter_cons_of_pos (by simpa using hk), List.lookup_cons, List.lookup_cons, ih]

theorem lookup_put (h : q ≠ place) : (t.put place n).nodes.lookup q = t.nodes.lookup q := by
  have hq : (q == place) = false := by simpa using h
  rw [put, List.lookup_cons, hq]
  exact lookup_filter_ne h

theorem any_isBelow_put (q : List Text) :
    (t.put place n).nodes.any (fun m => isBelow q m.1) =
      (isBelow q place || t.nodes.any fun m => isBelow q m.1) := by
  rw [put, List.any_cons, List.any_filter]
  cases h : isBelow q place with
  | true => rw [Bool.true_or, Bool.true_or]
  | false =>
    -- what stood at the place did not lie below either
    have hsame : ∀ m : List Text × Node, (m.1 != place && isBelow q m.1) = isBelow q m.1 := by
      intro m
      by_cases hm : m.1 = place
      · rw [hm, h, Bool.and_false]
      · rw [bne_iff_ne.2 hm, Bool.true_and]
    simp only [hsame, Bool.false_or]

theorem node?_put_self (t : FileTree) (place : List Text) (n : Node) :
    (t.put place n).node? place = some n := by
  simp [node?, put]

theorem node?_put_of_not_isBelow (hne : q ≠ place) (h : isBelow q place = false) :
    (t.put place n).node? q = t.node? q := by
  rw [node?, node?, lookup_put hne, any_isBelow_put, h, Bool.false_or]

theorem node?_put_of_eq_some (hne : q ≠ place) (h : t.node? q = some x) :
    (t.put place n).node? q = some x := by
  rw [node?, lookup_put hne, any_isBelow_put]
  rw [node?] at h
  cases hx : t.nodes.lookup q with
  | some y =>
    rw [hx] at h
    exact h
  | none =>
    rw [hx] at h
    simp only at h ⊢
    split at h
    · next hdir =>
      have hstill : q = [] ∨ (isBelow q place || t.nodes.any fun m => isBelow q m.1) = true := by
        rcases hdir with hq | hany
        · exact .inl hq
        · exact .inr (by rw [hany, Bool.or_true])
      rw [if_pos hstill]
      exact h
    · cases h

theorem directory_put (hp : t.node? place ≠ some .directory) (h : t.node? q = some .directory) :
    (t.put place n).node? q = some .directory := by
  refine node?_put_of_eq_some ?_ h
  rintro rfl
  exact hp h

theorem isBelow_trans (h : isBelow q place = true) (h' : isBelow place r = true) :
    isBelow q r = true := by
  simp only [isBelow, Bool.and_eq_true, List.isPrefixOf_iff_prefix, bne_iff_ne] at h h' ⊢
  refine ⟨h.1.trans h'.1, ?_⟩
  rintro rfl
  exact h.2 (h.1.eq_of_length_le h'.1.length_le)

theorem node?_ne_none_of_isBelow (h : isBelow q place = true) (hp : t.node? place ≠ none) :
    t.node? q ≠ none := by
  have hany : t.nodes.any (fun m => isBelow q m.1) = true := by
    rw [node?] at hp
    cases hx : t.nodes.lookup place with
    | some x =>
      obtain ⟨l, r, hl, -⟩ := List.lookup_eq_some_iff.1 hx
      rw [List.any_eq_true]
      exact ⟨(place, x), by simp [hl], h⟩
    | none =>
      rw [hx] at hp
      have hdir : place = [] ∨ t.nodes.any (fun m => isBelow place m.1) = true := by
        by_cases hdir : place = [] ∨ t.nodes.any (fun m => isBelow place m.1) = true
        · exact hdir
        · exact absurd (if_neg hdir) hp
      rcases hdir with rfl | hany
      · cases q <;> simp [isBelow] at h
      · obtain ⟨m, hm, hbelow⟩ := List.any_eq_true.1 hany
        exact List.any_eq_true.2 ⟨m, hm, isBelow_trans h hbelow⟩
  rw [node?]
  cases t.nodes.lookup q with
  | some x => simp
  | none => simp [hany]

theorem isBelow_append (place : List Text) (name : Text) :
    isBelow place (place ++ [name]) = true := by
  simp [isBelow]

theorem not_isBelow_append (place : List Text) (name : Text) :
    isBelow (place ++ [name]) place = false := by
  have hnot : ¬place ++ [name] <+: place := by
    intro hprefix
    have hlength := hprefix.length_le
    rw [List.length_append, List.length_singleton] at hlength
    omega
  rw [isBelow, Bool.and_eq_false_iff, ← Bool.not_eq_true, List.isPrefixOf_iff_prefix]
  exact .inl hnot

/-! ### Walks -/

theorem exists_next_of_walk {name : Text} (h : t.walk place (name :: names) = .reached r) :
    t.node? place = some .directory ∧ ∃ next, t.walk next names = .reached r ∧
      ∀ (t' : FileTree) (names' : List Text), t'.node? place = some .directory →
        t'.walk place (name :: names') = t'.walk next names' := by
  rw [walk] at h
  cases hn : t.node? place with
  | none =>
    rw [hn] at h
    cases h
  | some x =>
    cases x with
    | file content =>
      rw [hn] at h
      cases h
    | directory =>
      rw [hn] at h
      refine ⟨rfl, ?_⟩
      simp only at h
      split at h
      · next hup =>
        refine ⟨_, h, ?_⟩
        intro t' names' hd
        simp only [walk, hd, if_pos hup]
      · next hup =>
        split at h
        · cases h
        · next hshort =>
          refine ⟨_, h, ?_⟩
          intro t' names' hd
          simp only [walk, hd, if_neg hup, if_neg hshort]

/-- A walk that reaches a place does so in every tree that has the same directories and more. -/
theorem walk_mono (h : ∀ q, t.node? q = some .directory → t'.node? q = some .directory)
    (hw : t.walk place names = .reached r) : t'.walk place names = .reached r := by
  induction names generalizing place with
  | nil => exact hw
  | cons name names ih =>
    obtain ⟨hd, next, hw, hstep⟩ := exists_next_of_walk hw
    rw [hstep t' names (h place hd)]
    exact ih hw

theorem walk_append (hw : t.walk place names = .reached r) (more : List Text) :
    t.walk place (names ++ more) = t.walk r more := by
  induction names generalizing place with
  | nil =>
    obtain rfl := Walk.reached.inj hw
    rfl
  | cons name names ih =>
    obtain ⟨hd, next, hw, hstep⟩ := exists_next_of_walk hw
    rw [List.cons_append, hstep t (names ++ more) hd]
    exact ih hw

theorem follow_eq_reached_iff : t.follow p = .reached r ↔
    p.hasNull = false ∧ byteCount p.toText ≤ maxPathBytes ∧
      t.walk (if p.root = [] then t.working else []) p.names = .reached r := by
  rw [follow]
  cases hnull : p.hasNull with
  | true => simp
  | false =>
    rw [if_neg Bool.false_ne_true]
    split
    · next hlong => simp [Nat.not_le.2 hlong]
    · next hshort => simp [Nat.not_lt.1 hshort]

theorem follow_mono (h : ∀ q, t.node? q = some .directory → t'.node? q = some .directory)
    (hw : t'.working = t.working) (hr : t.follow p = .reached r) : t'.follow p = .reached r := by
  rw [follow_eq_reached_iff] at hr ⊢
  rw [hw]
  exact ⟨hr.1, hr.2.1, walk_mono h hr.2.2⟩

theorem follow_put (hp : t.node? place ≠ some .directory) (hr : t.follow p = .reached r) :
    (t.put place n).follow p = .reached r :=
  follow_mono (fun _ => directory_put hp) rfl hr

theorem byteCount_le_of_find? {found : Option Node} (hnull : p.hasNull = false)
    (h : t.find? p = .ok found) : byteCount p.toText ≤ maxPathBytes := by
  refine Nat.not_lt.1 fun hlong => ?_
  rw [find?, follow, hnull, if_neg Bool.false_ne_true, if_pos hlong] at h
  cases h

theorem follow_child {name : Text} (hr : t.follow p = .reached place)
    (hd : t.node? place = some .directory) (hnull : name.contains '\x00' = false)
    (hup : name ≠ ['.', '.']) (hname : byteCount name ≤ maxNameBytes)
    (hlong : byteCount (Path.toText ⟨p.root, p.names ++ [name]⟩) ≤ maxPathBytes) :
    t.follow ⟨p.root, p.names ++ [name]⟩ = .reached (place ++ [name]) := by
  rw [follow_eq_reached_iff] at hr ⊢
  obtain ⟨hpnull, -, hw⟩ := hr
  refine ⟨?_, hlong, ?_⟩
  · rw [Path.hasNull] at hpnull ⊢
    rw [List.any_append, hpnull, List.any_cons, hnull]
    rfl
  · show t.walk (if p.root = [] then t.working else []) (p.names ++ [name]) = _
    rw [walk_append hw, walk, hd]
    simp only [if_neg hup, if_neg (Nat.not_lt.2 hname)]
    rfl

/-! ### Files and directories -/

theorem find?_of_follow (hr : t.follow p = .reached r) : t.find? p = .ok (t.node? r) := by
  rw [find?, hr]

theorem write_eq_put (hr : t.follow p = .reached r) (hn : t.node? r ≠ some .directory)
    (content : Text) : t.write p content = .ok (t.put r (.file content)) := by
  rw [write, hr]
  cases hx : t.node? r with
  | none => simp only [hx]
  | some x =>
    cases x with
    | file old => simp only [hx]
    | directory => exact absurd hx hn

theorem read_of_find? (h : t.find? p = .ok (some (.file content))) : t.read p = .ok content := by
  rw [find?] at h
  cases hr : t.follow p with
  | reached r =>
    rw [hr] at h
    have hn : t.node? r = some (.file content) := Except.ok.inj h
    simp only [read, hr, hn]
  | _ =>
    rw [hr] at h
    cases h

theorem exists_read_eq_error (h : t.find? p = .ok none) : ∃ e, t.read p = .error e := by
  rw [find?] at h
  cases hr : t.follow p with
  | reached r =>
    rw [hr] at h
    have hn : t.node? r = none := Except.ok.inj h
    simp only [read, hr, hn]
    exact ⟨_, rfl⟩
  | _ =>
    rw [read, hr]
    exact ⟨_, rfl⟩

theorem makeDirectories_of_follow (hr : t.follow p = .reached r)
    (hn : t.node? r = none ∨ t.node? r = some .directory) (fuel : Nat) :
    t.makeDirectories p fuel =
      .ok (if t.node? r = some .directory then t else t.put r .directory) := by
  have hone : t.makeDirectory p =
      .ok (if t.node? r = some .directory then t else t.put r .directory) := by
    rw [makeDirectory, hr]
    rcases hn with hn | hn <;> simp [hn]
  cases fuel with
  | zero => exact hone
  | succ fuel =>
    rw [makeDirectories, hone]

theorem reached_of_makeDirectory (h : t.makeDirectory p = .ok t') :
    ∃ r, t'.follow p = .reached r ∧ t'.node? r = some .directory := by
  rw [makeDirectory] at h
  cases hr : t.follow p with
  | reached r =>
    simp only [hr] at h
    cases hn : t.node? r with
    | none =>
      simp only [hn] at h
      cases h
      exact ⟨r, follow_put (by simp [hn]) hr, node?_put_self t r .directory⟩
    | some x =>
      simp only [hn] at h
      cases x with
      | file content => cases h
      | directory =>
        cases h
        exact ⟨r, hr, hn⟩
  | _ =>
    rw [hr] at h
    cases h

theorem reached_of_makeDirectories {fuel : Nat} (h : t.makeDirectories p fuel = .ok t') :
    ∃ r, t'.follow p = .reached r ∧ t'.node? r = some .directory := by
  -- whichever directories above were made first, the last one was
  have hlast : ∃ u, FileTree.makeDirectory u p = .ok t' := by
    cases fuel with
    | zero => exact ⟨t, h⟩
    | succ fuel =>
      rw [makeDirectories] at h
      split at h
      · split at h
        · cases h
        · split at h
          · next u _ => exact ⟨u, h⟩
          · cases h
      · exact ⟨t, h⟩
  obtain ⟨u, hu⟩ := hlast
  exact reached_of_makeDirectory hu

end ChangeFeed.FileTree
