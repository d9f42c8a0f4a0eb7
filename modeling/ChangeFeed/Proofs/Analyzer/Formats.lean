import ChangeFeed.Proofs.Analyzer.Build
import ChangeFeed.Proofs.Ctags.Asking
import ChangeFeed.Proofs.Ctags.Listing
import ChangeFeed.Proofs.Etags.Remarks

/-!
# Both formats tell of the same definitions

The tag program lists definitions as a TAGS file or as records in JSON. What is read of the two
stands at the same sites, in the same order, exactly if no line of the TAGS file is passed over as a
remark (`extract_withFormat`). Tags with the same sites give events with the same ids
(`map_ids_build`), so then the format does not matter for those.
-/

namespace ChangeFeed

open Program (Outcome)

/-- The types and ids of the events of a batch. -/
def Batch.ids (b : Batch) : List (EventType × Value) := b.events.map fun e => (e.type, e.id)

namespace Analyzer

variable {a : Analyzer} {ts us : List Tag}

/-! ### Ids of events -/

theorem map_ids_ofTag (o : Occasion) (h : ts.map Tag.site = us.map Tag.site)
    (refs : List Reference) :
    (Batch.onOccasion o ts refs).ids = (Batch.onOccasion o us refs).ids := by
  let id (site : Value × Value × Int) : EventType × Value := (.modified,
    .ofPoints (Event.idOf EventType.modified.name site.2.1.points site.1.points o.url))
  have hid : ∀ ts : List Tag, (ts.map (Event.ofTag o)).map (fun e => (e.type, e.id)) =
      (ts.map Tag.site).map id := by
    intro ts
    rw [List.map_map, List.map_map]
    rfl
  unfold Batch.ids Batch.onOccasion
  rw [List.map_append, List.map_append, hid, hid, h]

theorem map_ids_assemble (c : Commit) (h : ts.map Tag.site = us.map Tag.site)
    (refs : List Reference) :
    (Batch.assemble c ts refs).map Batch.ids = (Batch.assemble c us refs).map Batch.ids := by
  have hempty : ts = [] ↔ us = [] := by
    rw [← List.map_eq_nil_iff (f := Tag.site), h, List.map_eq_nil_iff]
  simp only [Batch.assemble_eq, hempty]
  split
  · rfl
  · cases c.told with
    | error f => rfl
    | ok o => exact congrArg Except.ok (map_ids_ofTag o h refs)

/-- Tags with the same sites give events with the same ids, or the same failure. -/
theorem map_ids_build (h : ts.map Tag.site = us.map Tag.site) (ht : ∀ t ∈ ts, t.file.isKey)
    (diff : Text) (c : Commit) :
    (a.build diff ts c).map Batch.ids = (a.build diff us c).map Batch.ids := by
  cases hp : Diff.parse diff with
  | error p =>
    unfold build examine
    rw [hp]
    rfl
  | ok hs =>
    unfold build
    rw [examine_eq_ok hp ht, examine_eq_ok hp (SymbolIndex.isKey_of_map_site h ht)]
    exact map_ids_assemble c (SymbolIndex.map_site_changed h hs) _

/-! ### Listings -/

/-- The analyzer with another format for the listings of the tag program. -/
def withFormat (f : Ctags.Format) (a : Analyzer) : Analyzer :=
  { a with ctags := { a.ctags with format := f } }

/-- Definitions as a TAGS file and as records in JSON, of which each has its name in its text. -/
structure Listed (es : List Etags.Entry) (ss : List Etags.Section) (rows : List Ctags.Row) :
    Prop where
  entries : Etags.entries ss = es
  wellFormed : ∀ s ∈ ss, s.WellFormed
  named : ∀ e ∈ es, e.IsNamed
  sites : rows.map (fun r => r.definition.tag.site) = es.map Etags.Entry.site
  ascii : ∀ r ∈ rows, r.ascii = true

/-- The listing in a format. -/
def listing (ss : List Etags.Section) (rows : List Ctags.Row) : Ctags.Format → Text
  | .etags => Etags.render ss
  | .json => Text.ofLines (rows.map Ctags.Row.text)

variable {es : List Etags.Entry} {ss : List Etags.Section} {rows : List Ctags.Row}

theorem readTags_json (h : Listed es ss rows) {depth : Nat} (hdepth : 0 < depth) :
    ∃ ts, Ctags.readTags depth .json (listing ss rows .json) = .ok ts ∧
      ts.map Tag.site = es.map Etags.Entry.site := by
  obtain ⟨n, rfl⟩ := Nat.exists_eq_succ_of_ne_zero hdepth.ne'
  refine ⟨_, Ctags.tagsOfText_ofLines n fun r hr => .inl (h.ascii r hr), ?_⟩
  rw [List.map_map]
  exact h.sites

theorem readTags_etags (h : Listed es ss rows) (depth : Nat) :
    ∃ ts, Ctags.readTags depth .etags (listing ss rows .etags) = .ok ts ∧
      ts.map Tag.site = (Etags.seenFrom [] ss).map Etags.Entry.site := by
  obtain ⟨s, hparse, hsites⟩ := Etags.exists_parse_render_eq_ok h.wellFormed (h.entries ▸ h.named)
  refine ⟨s.tags, ?_, hsites⟩
  rw [listing, Ctags.readTags, hparse]
  rfl

theorem isKey_of_sites {ts : List Tag} (h : ts.map Tag.site = es.map Etags.Entry.site) :
    ∀ t ∈ ts, t.file.isKey := by
  intro t ht
  have hmem : t.site ∈ es.map Etags.Entry.site := h ▸ List.mem_map_of_mem ht
  obtain ⟨e, -, hsite⟩ := List.mem_map.1 hmem
  have hfile : .text e.file = t.file := congrArg Prod.fst hsite
  rw [← hfile]
  rfl

/-- The two formats tell of the same definitions, in the same order, exactly if no definition and no
file of one starts a remark. Then the events have the same ids. -/
theorem extract_withFormat {program : Text} (hprogram : a.ctags.program = .text program)
    (hl : Listed es ss rows) {s : Surroundings} (hdepth : 0 < s.depth) {t : Trace}
    {directory : Path} {names : List Text}
    (hlook : ∀ name ∈ names, ∃ b, Ctags.lookUp t.files directory name = .ok b)
    (hne : Ctags.existing t.files directory names ≠ []) {stderr : Ctags.Format → Option Text}
    (hanswer : ∀ f, s.answer ((a.withFormat f).ctags.request directory
        (Ctags.existing t.files directory names)) =
      (Outcome.finished (some (listing ss rows f)) (stderr f) 0).answer) :
    ∃ ts us,
      ((Ctags.extract (a.withFormat .etags).ctags directory (names.map .text)).exec s t).1 =
        .ok ts ∧
      ((Ctags.extract (a.withFormat .json).ctags directory (names.map .text)).exec s t).1 =
        .ok us ∧
      us.map Tag.site = es.map Etags.Entry.site ∧
      (ts.map Tag.site = us.map Tag.site ↔ Etags.IsSeen es) ∧
      (Etags.IsSeen es → ∀ diff c, ((a.withFormat .etags).build diff ts c).map Batch.ids =
        ((a.withFormat .json).build diff us c).map Batch.ids) := by
  obtain ⟨ts, hts, hsites⟩ := readTags_etags hl s.depth
  obtain ⟨us, hus, hsites'⟩ := readTags_json hl hdepth
  have hiff : ts.map Tag.site = us.map Tag.site ↔ Etags.IsSeen es := by
    rw [hsites, hsites', ← hl.entries]
    exact Etags.map_site_seenFrom_eq_iff (by decide)
  refine ⟨ts, us, ?_, ?_, hsites', hiff, fun hseen diff c => ?_⟩
  · rw [← hts]
    exact Ctags.exec_extract (hanswer .etags) hprogram hlook hne
  · rw [← hus]
    exact Ctags.exec_extract (hanswer .json) hprogram hlook hne
  · have hsame := hiff.2 hseen
    exact map_ids_build hsame (isKey_of_sites (hsame.trans hsites')) diff c

/-- The system in which the tag program lists these definitions, in the format that it is asked
for. -/
def listingSystem (ss : List Etags.Section) (rows : List Ctags.Row) : Surroundings where
  answer q :=
    let format : Ctags.Format := match q.command with
      | .list (_ :: .text word :: _) => if word = "-e".toList then .etags else .json
      | _ => .json
    (Outcome.finished (some (listing ss rows format)) none 0).answer
  environment := []
  depth := 985

theorem answer_listingSystem (ss : List Etags.Section) (rows : List Ctags.Row)
    (f : Ctags.Format) (directory : Path) (names : List Text) :
    (listingSystem ss rows).answer ((default.withFormat f).ctags.request directory names) =
      (Outcome.finished (some (listing ss rows f)) none 0).answer := by
  cases f with
  | json => rfl
  | etags => rfl

/-- A tree with one file in it. -/
def oneFile : Trace where
  files := ⟨[(["repo".toList, "setup.nsh".toList], .file [])], []⟩

theorem lookUp_oneFile : ∀ name ∈ ["setup.nsh".toList],
    ∃ b, Ctags.lookUp oneFile.files (.ofText "/repo") name = .ok b := by
  intro name hname
  rw [List.mem_singleton.1 hname]
  exact ⟨true, rfl⟩

theorem existing_oneFile :
    Ctags.existing oneFile.files (.ofText "/repo") ["setup.nsh".toList] ≠ [] := by decide

/-- What comes of asking for the tags of the one file. -/
def extracted (ss : List Etags.Section) (rows : List Ctags.Row) (f : Ctags.Format) :
    Except Failure (List Tag) :=
  ((Ctags.extract (default.withFormat f).ctags (.ofText "/repo")
    [.text "setup.nsh"]).exec (listingSystem ss rows) oneFile).1

/-- The record of an entry. -/
def rowOf (e : Etags.Entry) (h : Numeral.fits e.line = true) : Ctags.Row where
  definition := { path := e.file, name := e.name, line := e.line }
  fits := h
  fields := _
  perm := .refl _
  ascii := true

/-- A function and a variable of one file. -/
def functionEntry : Etags.Entry := ⟨"setup.nsh", "Function Foo", "Foo", 4, 30⟩

def variableEntry : Etags.Entry := ⟨"setup.nsh", "Var bar", "bar", 1, 0⟩

theorem extract_withFormat_functions :
    let es := [functionEntry, variableEntry]
    let ss : List Etags.Section := [⟨"setup.nsh", 12,
      [⟨"Function Foo", "Foo", 4, 30⟩, ⟨"Var bar", "bar", 1, 0⟩]⟩]
    let rows := [rowOf functionEntry (by decide +kernel), rowOf variableEntry (by decide +kernel)]
    Listed es ss rows ∧ Etags.IsSeen es ∧ ∃ ts us,
      extracted ss rows .etags = .ok ts ∧ extracted ss rows .json = .ok us ∧
      ts.map Tag.site = us.map Tag.site ∧
      ∀ diff c, ((default.withFormat .etags).build diff ts c).map Batch.ids =
        ((default.withFormat .json).build diff us c).map Batch.ids := by
  intro es ss rows
  have hl : Listed es ss rows :=
    ⟨rfl, by decide +kernel, by decide +kernel, by rfl, by simp [rows, rowOf]⟩
  have hseen : Etags.IsSeen es := by decide
  have hprogram : default.ctags.program = .text "ctags" := rfl
  have hdepth : 0 < (listingSystem ss rows).depth := by decide
  have hanswer := fun f => answer_listingSystem ss rows f (.ofText "/repo")
    (Ctags.existing oneFile.files (.ofText "/repo") ["setup.nsh".toList])
  obtain ⟨ts, us, hts, hus, -, hiff, hids⟩ :=
    extract_withFormat hprogram hl hdepth lookUp_oneFile existing_oneFile hanswer
  exact ⟨hl, hseen, ts, us, hts, hus, hiff.2 hseen, hids hseen⟩

theorem extracted_eq (ss : List Etags.Section) (rows : List Ctags.Row) (f : Ctags.Format) :
    extracted ss rows f = Ctags.readTags 985 f (listing ss rows f) := by
  have hprogram : (default.withFormat f).ctags.program = .text "ctags" := rfl
  exact Ctags.exec_extract (answer_listingSystem ss rows f _ _) hprogram lookUp_oneFile
    existing_oneFile

/-- A text without the marks of the two formats. -/
def IsUnmarked (t : Text) : Prop :=
  ∀ c ∈ ['\n', '\r', Etags.nameMark, Etags.positionMark], c ∉ t

instance (t : Text) : Decidable (IsUnmarked t) := List.decidableBAll _ _

/-- A macro, the definition of which starts with an exclamation mark. -/
def macroEntry : Etags.Entry := ⟨"setup.nsh", "!macro Foo", "Foo", 4, 30⟩

/-- A function at a line with a number of 4301 digits. -/
def farEntry : Etags.Entry := ⟨"setup.nsh", "Function Foo", "Foo", .ofNat (Nat.pow 10 4300), 30⟩

/-- The TAGS file of one entry. -/
def sectionOf (e : Etags.Entry) : Etags.Section :=
  ⟨e.file, 12, [⟨e.definition, e.name, e.line, e.offset⟩]⟩

def macroRow : Ctags.Row := rowOf macroEntry (by decide +kernel)

/-- The TAGS file hides the macro, and cannot be read if a line number is too long. -/
theorem extracted_macro_ne :
    (∀ e ∈ [macroEntry, farEntry], e.IsNamed ∧
      ∀ t ∈ [e.file, e.definition, e.name], IsUnmarked t) ∧
    (∃ ts us, extracted [sectionOf macroEntry] [macroRow] .etags = .ok ts ∧
      extracted [sectionOf macroEntry] [macroRow] .json = .ok us ∧
      us.map Tag.site = [macroEntry.site] ∧ ts.map Tag.site ≠ us.map Tag.site) ∧
    ∀ rows ts, extracted [sectionOf farEntry] rows .etags ≠ .ok ts := by
  refine ⟨?_, ?_, ?_⟩
  · decide +kernel
  · have hl : Listed [macroEntry] [sectionOf macroEntry] [macroRow] :=
      ⟨rfl, by decide +kernel, by decide +kernel, by rfl, by simp [macroRow, rowOf]⟩
    obtain ⟨ts, hts, hsites⟩ := readTags_etags hl 985
    have hdepth : 0 < 985 := by decide
    obtain ⟨us, hus, hsites'⟩ := readTags_json hl hdepth
    rw [extracted_eq, extracted_eq]
    refine ⟨ts, us, hts, hus, hsites', ?_⟩
    rw [hsites, hsites', ← hl.entries, ne_eq, Etags.map_site_seenFrom_eq_iff (by decide)]
    decide
  · intro rows ts hts
    rw [extracted_eq] at hts
    have hparse : ∃ p, Etags.parse (Etags.render [sectionOf farEntry]) = .error p :=
      Etags.exists_parse_render_eq_error (by decide) (by decide +kernel) (by decide) (by decide)
        (by decide) (by decide +kernel)
    obtain ⟨p, hp⟩ := hparse
    rw [Ctags.readTags, listing, hp] at hts
    cases hts

end Analyzer

end ChangeFeed
