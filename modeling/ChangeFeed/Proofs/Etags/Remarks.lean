import ChangeFeed.Proofs.Etags.RoundTrip

/-!
# What remarks hide

A line that starts with an exclamation mark is passed over, also where it names a file or a symbol.
The symbols behind the line of such a file are taken for those of the file in front (`seenFrom`). So
a TAGS file is read as it is meant exactly if none of its symbols has such a file or definition
(`map_site_seenFrom_eq_iff`).
-/

namespace ChangeFeed.Etags

variable {ss : List Section} {file : Text}

/-- The file that symbols are taken for behind the line of a file. -/
def fileBehind (file next : Text) : Text := if IsRemark next then file else next

/-- The entries that are read of sections behind the line of a file. -/
def seenFrom (file : Text) : List Section → List Entry
  | [] => []
  | s :: ss =>
    s.symbols.flatMap (SymbolLine.seen (fileBehind file s.file)) ++
      seenFrom (fileBehind file s.file) ss

theorem Session.entries_foldl_after (ss : List Section) (x : Session) :
    (ss.foldl after x).entries = x.entries ++ seenFrom x.current ss := by
  induction ss generalizing x with
  | nil => exact (List.append_nil _).symm
  | cons s ss ih =>
    have hcurrent : (x.after s).current = fileBehind x.current s.file := by
      unfold after afterFile fileBehind
      split <;> rfl
    have hentries : (x.after s).entries =
        x.entries ++ s.symbols.flatMap (SymbolLine.seen (fileBehind x.current s.file)) := by
      unfold after afterFile fileBehind
      split <;> rfl
    rw [List.foldl_cons, ih, hcurrent, hentries, seenFrom, List.append_assoc]

/-- No symbol has a file or a definition that starts a remark. -/
def IsSeen (es : List Entry) : Prop := ∀ e ∈ es, ¬IsRemark e.file ∧ ¬IsRemark e.definition

instance (es : List Entry) : Decidable (IsSeen es) :=
  inferInstanceAs (Decidable (∀ e ∈ es, _ ∧ _))

theorem entries_cons (s : Section) (ss : List Section) :
    entries (s :: ss) = s.entries ++ entries ss := List.flatMap_cons

theorem mem_entries_section {s : Section} {e : Entry} :
    e ∈ s.entries ↔ ∃ y ∈ s.symbols, y.entry s.file = e := List.mem_map

theorem seenFrom_of_isSeen (h : IsSeen (entries ss)) (file : Text) :
    seenFrom file ss = entries ss := by
  induction ss generalizing file with
  | nil => rfl
  | cons s ss ih =>
    rw [entries_cons, IsSeen, List.forall_mem_append] at h
    have hrest : seenFrom (fileBehind file s.file) ss = entries ss := ih h.2 _
    have hdefinition : ∀ y ∈ s.symbols, ¬IsRemark y.definition := fun y hy =>
      (h.1 _ (mem_entries_section.2 ⟨y, hy, rfl⟩)).2
    have hsymbols : s.symbols.flatMap (SymbolLine.seen (fileBehind file s.file)) = s.entries := by
      rw [SymbolLine.flatMap_seen hdefinition]
      refine List.map_congr_left fun y hy => ?_
      have hfile : ¬IsRemark s.file := (h.1 _ (mem_entries_section.2 ⟨y, hy, rfl⟩)).1
      rw [fileBehind, if_neg hfile]
    rw [seenFrom, entries_cons, hsymbols, hrest]

theorem exists_of_mem_seenFrom {e : Entry} (h : e ∈ seenFrom file ss) :
    ∃ s ∈ ss, ∃ y ∈ s.symbols, ∃ f, (f = file ∨ ¬IsRemark f) ∧ y.entry f = e := by
  induction ss generalizing file with
  | nil => cases h
  | cons s ss ih =>
    have hnext : fileBehind file s.file = file ∨ ¬IsRemark (fileBehind file s.file) := by
      unfold fileBehind
      split
      · exact .inl rfl
      · exact .inr ‹_›
    rw [seenFrom, List.mem_append] at h
    rcases h with h | h
    · obtain ⟨y, hy, he⟩ := List.mem_flatMap.1 h
      unfold SymbolLine.seen at he
      split at he
      · cases he
      · exact ⟨s, List.mem_cons_self, y, hy, _, hnext, (List.mem_singleton.1 he).symm⟩
    · obtain ⟨s', hs', y, hy, f, hf, he⟩ := ih h
      refine ⟨s', List.mem_cons_of_mem s hs', y, hy, f, ?_, he⟩
      rcases hf with rfl | hf
      · exact hnext
      · exact .inr hf

theorem not_isRemark_of_mem_seenFrom (hfile : ¬IsRemark file) :
    ∀ e ∈ seenFrom file ss, ¬IsRemark e.file := by
  intro e he
  obtain ⟨s, -, y, -, f, hf, rfl⟩ := exists_of_mem_seenFrom he
  rcases hf with rfl | hf
  · exact hfile
  · exact hf

theorem SymbolLine.length_flatMap_seen (file meant : Text) (ys : List SymbolLine) :
    (ys.flatMap (seen file)).length =
      ((ys.map (entry meant)).filter fun e => ¬IsRemark e.definition).length := by
  induction ys with
  | nil => rfl
  | cons y ys ih =>
    rw [List.flatMap_cons, List.length_append, ih, List.map_cons, List.filter_cons, seen]
    by_cases h : IsRemark y.definition
    · simp [h, entry]
    · simp [h, entry, Nat.add_comm]

theorem length_seenFrom (file : Text) (ss : List Section) : (seenFrom file ss).length =
    ((entries ss).filter fun e => ¬IsRemark e.definition).length := by
  induction ss generalizing file with
  | nil => rfl
  | cons s ss ih =>
    rw [seenFrom, List.length_append, ih, entries_cons, List.filter_append, List.length_append,
      SymbolLine.length_flatMap_seen _ s.file]
    rfl

/-- The entries that are read stand where the symbols do exactly if no line of a symbol, or of its
file, is passed over. -/
theorem map_site_seenFrom_eq_iff (hfile : ¬IsRemark file) :
    (seenFrom file ss).map Entry.site = (entries ss).map Entry.site ↔ IsSeen (entries ss) := by
  refine ⟨fun h e he => ⟨fun hremark => ?_, ?_⟩, fun h => by rw [seenFrom_of_isSeen h]⟩
  · have hmem : e.site ∈ (seenFrom file ss).map Entry.site := h ▸ List.mem_map_of_mem he
    obtain ⟨e', he', hsite⟩ := List.mem_map.1 hmem
    have hfiles : e'.file = e.file := Value.text.inj (congrArg Prod.fst hsite)
    exact not_isRemark_of_mem_seenFrom hfile e' he' (hfiles ▸ hremark)
  · have hlength := congrArg List.length h
    rw [List.length_map, List.length_map, length_seenFrom] at hlength
    have hall := List.length_filter_eq_length_iff.1 hlength e he
    simpa using hall

theorem isNamed_of_mem_seenFrom (h : ∀ e ∈ entries ss, e.IsNamed) (file : Text) :
    ∀ e ∈ seenFrom file ss, e.IsNamed := by
  intro e he
  obtain ⟨s, hs, y, hy, f, -, rfl⟩ := exists_of_mem_seenFrom he
  -- the file does not matter for the name
  have hnamed : (y.entry s.file).IsNamed :=
    h _ (List.mem_flatMap.2 ⟨s, hs, mem_entries_section.2 ⟨y, hy, rfl⟩⟩)
  exact hnamed

theorem exists_parse_render_eq_ok {ss : List Section} (hw : ∀ s ∈ ss, s.WellFormed)
    (hn : ∀ e ∈ entries ss, e.IsNamed) :
    ∃ s, parse (render ss) = .ok s ∧ s.tags.map Tag.site = (seenFrom [] ss).map Entry.site := by
  refine ⟨ss.foldl Session.after {}, ?_, ?_⟩
  · rw [parse, exec_feedText_render hw]
  · have hentries := Session.entries_foldl_after ss {}
    have hall : (seenFrom [] ss).filter (·.IsNamed) = seenFrom [] ss :=
      List.filter_eq_self.2 fun e he => decide_eq_true (isNamed_of_mem_seenFrom hn [] e he)
    rw [Session.tags, map_site_filterMap_toTag?, hentries]
    exact congrArg _ hall

end ChangeFeed.Etags
