import ChangeFeed.Operation
import ChangeFeed.Proofs.Etags.Reading
import ChangeFeed.Proofs.Symbol.Changed

/-!
# TAGS files are read back

Where no file and no definition starts with an exclamation mark, nothing is passed over: the entries
of a TAGS file are read in order, each under the file of its section, and its tags are those of the
entries that have their name in their definition (`onEtags_parse_render`). It does not matter what a
session has read before.
-/

namespace ChangeFeed.Etags

open Operation Text

/-- Where an entry says that a definition stands. -/
def Entry.site (e : Entry) : Value × Value × Int := (.text e.file, .text e.name, e.line)

/-- An entry has its name in its definition. -/
def Entry.IsNamed (e : Entry) : Prop := e.name <:+: e.definition

instance (e : Entry) : Decidable e.IsNamed := inferInstanceAs (Decidable (_ <:+: _))

/-- No line of a section is passed over. -/
def Section.IsSeen (s : Section) : Prop :=
  ¬IsRemark s.file ∧ ∀ y ∈ s.symbols, ¬IsRemark y.definition

instance (s : Section) : Decidable s.IsSeen := inferInstanceAs (Decidable (_ ∧ _))

/-! ### Entries and files -/

theorem SymbolLine.flatMap_seen {ys : List SymbolLine} (h : ∀ y ∈ ys, ¬IsRemark y.definition)
    (file : Text) : ys.flatMap (SymbolLine.seen file) = ys.map (SymbolLine.entry file) := by
  induction ys with
  | nil => rfl
  | cons y ys ih =>
    rw [List.forall_mem_cons] at h
    rw [List.flatMap_cons, SymbolLine.seen, if_neg h.1, ih h.2]
    rfl

namespace Session

theorem after_of_isSeen {s : Section} (h : s.IsSeen) (x : Session) :
    x.after s = ⟨x.entries ++ s.entries, x.files ++ [s.file], s.file⟩ := by
  rw [after, afterFile, if_neg h.1, SymbolLine.flatMap_seen h.2]
  rfl

theorem foldl_after {ss : List Section} (h : ∀ s ∈ ss, s.IsSeen) (x : Session) :
    (ss.foldl after x).entries = x.entries ++ Etags.entries ss ∧
      (ss.foldl after x).files = x.files ++ ss.map Section.file := by
  induction ss generalizing x with
  | nil => simp [Etags.entries]
  | cons s ss ih =>
    rw [List.forall_mem_cons] at h
    obtain ⟨hentries, hfiles⟩ := ih h.2 (x.after s)
    rw [List.foldl_cons, hentries, hfiles, after_of_isSeen h.1]
    simp [Etags.entries]

end Session

/-! ### Tags -/

theorem Entry.toTag?_isSome_iff {e : Entry} : e.toTag?.isSome = true ↔ e.IsNamed := by
  rw [toTag?, Parts.ofDefinition?, Option.isSome_map, Option.isSome_map, cutAround?_isSome_iff]
  rfl

theorem Entry.site_of_toTag? {e : Entry} {t : Tag} (h : e.toTag? = some t) : t.site = e.site := by
  obtain ⟨p, -, rfl⟩ := Option.map_eq_some_iff.1 h
  rfl

theorem map_site_filterMap_toTag? (es : List Entry) :
    (es.filterMap Entry.toTag?).map Tag.site = (es.filter (·.IsNamed)).map Entry.site := by
  induction es with
  | nil => rfl
  | cons e es ih =>
    cases ht : e.toTag? with
    | none =>
      have hn : ¬e.IsNamed := fun hn => by simpa [ht] using Entry.toTag?_isSome_iff.2 hn
      rw [List.filterMap_cons_none ht, List.filter_cons_of_neg (by simpa using hn), ih]
    | some t =>
      have hn : e.IsNamed := Entry.toTag?_isSome_iff.1 (by rw [ht]; rfl)
      rw [List.filterMap_cons_some ht, List.filter_cons_of_pos (by simpa using hn), List.map_cons,
        List.map_cons, ih, Entry.site_of_toTag? ht]

/-- A whole text is read from the start, and the lines in front of a wrong one stay read. -/
theorem onEtags_parse_eq (x : Session) (t : Text) : onEtags x "parse" [.text t] =
    match (Session.feedText t).exec {} with
    | (.ok _, s) => (s, .ok none)
    | (.error p, s) => (s, .error (.etags p)) := by
  have hname : named "EtagsParser" etagsOperations "parse" 1 = .ok "parse" := rfl
  have hexec : (ofEtags "parse" [.text t]).exec x =
      (do ExceptT.adapt .etags (Session.feedText t); return none :
        Attempt Session Failure (Option (List Tag))).exec {} := by
    rw [ofEtags, List.length_singleton, hname, Attempt.exec_bind, Attempt.exec_ofExcept]
    rfl
  rw [onEtags, hexec, Attempt.exec_bind, Attempt.exec_adapt]
  rcases (Session.feedText t).exec {} with ⟨p | u, s⟩ <;> rfl

/-- Whatever a session has read before: once it has read a rendered TAGS file, it has the entries
and the files of that file, and the tags that it gives stand where the entries say that have their
name in their definition. -/
theorem onEtags_parse_render {ss : List Section} (hw : ∀ s ∈ ss, s.WellFormed)
    (hs : ∀ s ∈ ss, s.IsSeen) (x : Session) :
    ∃ s, onEtags x "parse" [.text (render ss)] = (s, .ok none) ∧ s.entries = entries ss ∧
      s.files = ss.map Section.file ∧
      ∃ ts, onEtags s "to_tags" [] = (s, .ok (some ts)) ∧
        ts.map Tag.site = ((entries ss).filter (·.IsNamed)).map Entry.site := by
  have htags : named "EtagsParser" etagsOperations "to_tags" 0 = .ok "to_tags" := by rfl
  obtain ⟨hentries, hfiles⟩ := Session.foldl_after hs {}
  set s := ss.foldl Session.after {}
  have hread : onEtags x "parse" [.text (render ss)] = (s, .ok none) := by
    rw [onEtags_parse_eq, exec_feedText_render hw]
  have hto : onEtags s "to_tags" [] = (s, .ok (some s.tags)) := by
    rw [onEtags, ofEtags, List.length_nil, htags]
    rfl
  refine ⟨s, hread, hentries, hfiles, s.tags, hto, ?_⟩
  rw [Session.tags, hentries, map_site_filterMap_toTag?]
  rfl

/-- Two sections whose fields have the marks of other fields in them. -/
def marked : List Section := [
  { file := "lib, v2/a.c", size := -1
    symbols := [⟨"int f(int a,\x01 b", "f", 42, 1021⟩, ⟨"", "g\x7f,1", -7, 0⟩] },
  { file := "", size := 0, symbols := [⟨"\r", "", 0, 12⟩] }]

theorem onEtags_parse_marked :
    (∀ s ∈ marked, s.WellFormed) ∧ (∀ s ∈ marked, s.IsSeen) ∧
      ∃ s, onEtags ⟨[⟨"old.c", "int x", "x", 1, 0⟩], ["old.c"], "old.c"⟩ "parse"
          [.text (render marked)] = (s, .ok none) ∧
        s.entries = [⟨"lib, v2/a.c", "int f(int a,\x01 b", "f", 42, 1021⟩,
          ⟨"lib, v2/a.c", "", "g\x7f,1", -7, 0⟩, ⟨"", "\r", "", 0, 12⟩] ∧
        s.files = ["lib, v2/a.c".toList, []] ∧
        ∃ ts, onEtags s "to_tags" [] = (s, .ok (some ts)) ∧
          ts.map Tag.site = [(.text "lib, v2/a.c", .text "f", 42), (.text "", .text [], 0)] := by
  have hw : ∀ s ∈ marked, s.WellFormed := by decide +kernel
  have hs : ∀ s ∈ marked, s.IsSeen := by decide +kernel
  obtain ⟨s, hparse, hentries, hfiles, ts, htags, hsites⟩ :=
    onEtags_parse_render hw hs ⟨[⟨"old.c", "int x", "x", 1, 0⟩], ["old.c"], "old.c"⟩
  refine ⟨hw, hs, s, hparse, hentries, hfiles, ts, htags, hsites.trans ?_⟩
  decide +kernel

end ChangeFeed.Etags
