import ChangeFeed.Ctags.Listing
import ChangeFeed.Ctags.Records
import ChangeFeed.Proofs.Json.Lines

/-!
# Listings are read back, unless a record is cut

A `Row` is the record of a definition with its fields in any order, its characters outside ASCII
escaped or not. A row is whole if it has no character that ends a line; then its line is read as the
tag of the definition (`tagOfLine_text`). Any other row is cut where the first of these characters
stands, which is inside a string, so what is left of it is no JSON (`exists_tagOfLine_eq_error`).
-/

namespace ChangeFeed

theorem Table.get?_eq_of_perm {t u : Table} (hn : (keys t).Nodup) (h : t.Perm u) (key : Key) :
    get? key t = get? key u := by
  induction h with
  | nil => rfl
  | cons e _ ih =>
    rw [keys, List.map_cons, List.nodup_cons] at hn
    rw [get?, get?, ih hn.2]
  | swap e f t =>
    rw [keys, List.map_cons, List.map_cons, List.nodup_cons] at hn
    have hne : f.1 ≠ e.1 := fun heq => hn.1 (heq ▸ List.mem_cons_self)
    simp only [get?]
    split
    · next hf =>
      rw [if_neg fun he => hne (hf.trans he.symm)]
    · rfl
  | trans h₁ _ ih₁ ih₂ => rw [ih₁ hn, ih₂ ((h₁.map Prod.fst).nodup_iff.1 hn)]

namespace Ctags

namespace Definition

/-- The texts of a definition. -/
def texts (d : Definition) : List Text := [d.path, d.name, d.kind, d.signature]

/-- The names of the fields of a record. -/
def fieldNames : List Text := ["_type", "name", "path", "kind", "signature", "line"]

theorem keys_fields (d : Definition) : Table.keys d.fields = fieldNames.map .text := rfl

theorem isUncut_fieldName :
    ∀ key ∈ fieldNames, ∀ ascii, Text.IsUncut (Json.stringText ascii key) := by decide

theorem exists_mem_fields {d : Definition} {t : Text} (h : t ∈ d.texts) :
    ∃ key : Text, (.text key, .text t) ∈ d.fields := by
  simp only [texts, List.mem_cons, List.not_mem_nil, or_false] at h
  rcases h with rfl | rfl | rfl | rfl
  · exact ⟨"path", by simp [fields]⟩
  · exact ⟨"name", by simp [fields]⟩
  · exact ⟨"kind", by simp [fields]⟩
  · exact ⟨"signature", by simp [fields]⟩

end Definition

/-- The record of a definition: its fields in any order, in a style of one line. -/
structure Row where
  definition : Definition
  fits : Numeral.fits definition.line = true
  fields : Table
  perm : fields.Perm definition.fields
  ascii : Bool

namespace Row

variable {r : Row} {e : Key × Value}

/-- How a record is written. -/
def style (r : Row) : Json.Style := { ascii := r.ascii }

/-- The line of a record. -/
def text (r : Row) : Text := Json.shown r.style (.table r.fields)

/-- A record with no character that ends a line and is not escaped. -/
def IsWhole (r : Row) : Prop :=
  r.ascii = true ∨ ∀ t ∈ r.definition.texts, ∀ c ∈ t, c ∉ Json.breaks

instance (r : Row) : Decidable r.IsWhole :=
  have (t : Text) : Decidable (∀ c ∈ t, c ∉ Json.breaks) := List.decidableBAll _ t
  inferInstanceAs (Decidable (_ ∨ _))

/-! ### The fields of a record -/

theorem mem_fields_iff : e ∈ r.fields ↔ e ∈ r.definition.fields := r.perm.mem_iff

theorem nodup_keys (r : Row) : (Table.keys r.fields).Nodup := by
  have h : (Table.keys r.definition.fields).Nodup := by
    rw [Definition.keys_fields]
    decide
  exact (r.perm.map Prod.fst).nodup_iff.2 h

theorem get?_fields (r : Row) (key : Key) :
    Table.get? key r.fields = Table.get? key r.definition.fields :=
  Table.get?_eq_of_perm r.nodup_keys r.perm key

theorem key_of_mem_fields (h : e ∈ r.fields) : ∃ key ∈ Definition.fieldNames, e.1 = .text key := by
  have hk : e.1 ∈ Table.keys r.definition.fields := List.mem_map_of_mem (mem_fields_iff.1 h)
  rw [Definition.keys_fields] at hk
  obtain ⟨key, hkey, heq⟩ := List.mem_map.1 hk
  exact ⟨key, hkey, heq.symm⟩

theorem value_of_mem_fields (h : e ∈ r.fields) :
    e.2 = .int r.definition.line ∨ ∃ t ∈ "tag".toList :: r.definition.texts, e.2 = .text t := by
  have hd := mem_fields_iff.1 h
  simp only [Definition.fields, List.mem_cons, List.not_mem_nil, or_false] at hd
  rcases hd with rfl | rfl | rfl | rfl | rfl | rfl <;> simp [Definition.texts]

theorem readable_of_mem_fields {depth : Nat} (h : e ∈ r.fields) : Json.Readable depth e.2 := by
  rcases value_of_mem_fields h with hv | ⟨t, -, hv⟩
  · exact hv ▸ .int r.fits
  · exact hv ▸ .text t

theorem spaced_style (r : Row) : r.style.Spaced := Json.Style.spaced_of_indent_eq_none rfl

/-! ### Whole records -/

theorem isUncut_entryText {d : Nat} (h : e ∈ r.fields)
    (hb : r.ascii = true ∨ Json.hasBreak e.2 = false) :
    Text.IsUncut (Json.entryText r.style d e) := by
  obtain ⟨key, hkey, hk⟩ := key_of_mem_fields h
  obtain ⟨k, v⟩ := e
  obtain rfl : k = .text key := hk
  rw [Json.entryText_text, Text.isUncut_append, Text.isUncut_append]
  refine ⟨⟨Definition.isUncut_fieldName key hkey _, by decide⟩, ?_⟩
  rcases value_of_mem_fields h with hv | ⟨t, -, hv⟩
  · obtain rfl : v = .int r.definition.line := hv
    exact Json.isUncut_ofInt _
  · obtain rfl : v = .text t := hv
    rw [Json.valueText_text]
    exact Json.isUncut_stringText (hb.imp_right Json.not_mem_breaks_of_hasBreak)

theorem hasBreak_of_isWhole (h : r.IsWhole) (he : e ∈ r.fields) :
    r.ascii = true ∨ Json.hasBreak e.2 = false := by
  refine h.imp_right fun hd => ?_
  rw [← Bool.not_eq_true]
  intro hb
  obtain ⟨t, ht, c, hc, hcb⟩ := Json.exists_of_hasBreak hb
  rcases value_of_mem_fields he with hv | ⟨u, hu, hv⟩
  · cases hv.symm.trans ht
  · obtain rfl : u = t := Value.text.inj (hv.symm.trans ht)
    rcases List.mem_cons.1 hu with rfl | hu
    · exact Json.not_mem_breaks_of_hasBreak (t := "tag") rfl c hc hcb
    · exact hd u hu c hc hcb

theorem isUncut_text (h : r.IsWhole) : Text.IsUncut r.text :=
  Json.isUncut_table rfl fun _ he => isUncut_entryText he (hasBreak_of_isWhole h he)

theorem exists_key (h : e ∈ r.fields) : ∃ t, e.1 = .text t := by
  obtain ⟨key, -, hk⟩ := key_of_mem_fields h
  exact ⟨key, hk⟩

theorem read_text (depth : Nat) (r : Row) :
    Json.read (depth + 1) r.text = .ok (.table r.fields) :=
  Json.read_shown r.spaced_style
    (.table r.nodup_keys (fun _ => exists_key) fun _ => readable_of_mem_fields)

theorem tagOfRecord_fields (r : Row) (line : Text) :
    tagOfRecord line (.table r.fields) = .ok (some r.definition.tag) := by
  have htag : tagOfFields line r.fields = tagOfFields line r.definition.fields := by
    simp only [tagOfFields, r.get?_fields]
  rw [tagOfRecord, Value.entriesFor]
  simp only [htag, r.get?_fields]
  rfl

theorem exists_text_eq (r : Row) : ∃ m, r.text = '\x7b' :: (m ++ '\x7d' :: []) :=
  Json.exists_valueText_table_eq r.style 0 r.fields

theorem text_ne_nil (r : Row) : r.text ≠ [] := by
  obtain ⟨m, hm⟩ := r.exists_text_eq
  rw [hm]
  exact List.cons_ne_nil _ _

theorem tagOfLine_text (depth : Nat) (r : Row) :
    tagOfLine (depth + 1) r.text = .ok (some r.definition.tag) := by
  have hstrip : Text.strip r.text = r.text := by
    obtain ⟨m, hm⟩ := r.exists_text_eq
    rw [hm, Text.strip_cons_append_cons (by decide) (by decide)]
    rfl
  rw [tagOfLine, hstrip]
  simp only [if_neg r.text_ne_nil, readRecord, read_text]
  exact tagOfRecord_fields r r.text

/-! ### Cut records -/

/-- Where a record is cut: at the first character of its strings that ends a line and is written as
it is. -/
structure Cut (r : Row) (front : Table) (key t : Text) (c : Char) (u : Text) (back : Table) :
    Prop where
  fields_eq : r.fields = front ++ (.text key, .text (t ++ c :: u)) :: back
  isRaw : r.ascii = false
  isBreak : c ∈ Json.breaks
  isFirst : ∀ x ∈ t, x ∉ Json.breaks
  isFirstField : ∀ e ∈ front, Json.hasBreak e.2 = false

theorem exists_cut (h : ¬ r.IsWhole) : ∃ front key t c u back, r.Cut front key t c u back := by
  obtain ⟨hraw, hbreak⟩ := not_or.1 h
  simp only [not_forall, not_not] at hbreak
  obtain ⟨t, ht, c, hc, hb⟩ := hbreak
  obtain ⟨key, hkey⟩ := Definition.exists_mem_fields ht
  have hsome : ∃ e ∈ r.fields, Json.hasBreak e.2 = true :=
    ⟨_, mem_fields_iff.2 hkey, Json.hasBreak_text_iff.2 ⟨c, hc, hb⟩⟩
  obtain ⟨front, ⟨k, v⟩, back, hfields, hv, hfront⟩ := exists_first hsome
  obtain ⟨t, rfl, c, hc, hb⟩ := Json.exists_of_hasBreak hv
  obtain ⟨key, -, rfl⟩ : ∃ key ∈ Definition.fieldNames, k = .text key :=
    key_of_mem_fields (r := r) (e := (k, .text t)) (by simp [hfields])
  obtain ⟨t, c, u, rfl, hb, hfirst⟩ :=
    exists_first (p := fun x => decide (x ∈ Json.breaks)) ⟨c, hc, decide_eq_true hb⟩
  exact ⟨front, key, t, c, u, back, hfields, Bool.eq_false_iff.2 hraw, of_decide_eq_true hb,
    fun x hx => of_decide_eq_false (hfirst x hx), hfront⟩

namespace Cut

variable {front back : Table} {key t u : Text} {c : Char}

/-- What is left of the record in front of the character where it is cut. -/
def piece (_ : r.Cut front key t c u back) : Text :=
  Json.openTable r.style 0 front key (t.flatMap (Json.charText r.ascii))

theorem mem_fields (h : r.Cut front key t c u back) (he : e ∈ front) : e ∈ r.fields := by
  rw [h.fields_eq]
  exact List.mem_append_left _ he

theorem exists_text_eq (h : r.Cut front key t c u back) :
    ∃ rest, r.text = h.piece ++ c :: rest := by
  obtain ⟨rest, hrest⟩ := Json.exists_valueText_eq_openTable r.style 0 front back key t (c :: u)
  have hc : Json.charText r.style.ascii c = [c] := by
    rw [show r.style.ascii = false from h.isRaw, Json.charText_of_mem_breaks h.isBreak]
  rw [List.flatMap_cons, hc, ← h.fields_eq] at hrest
  exact ⟨_, hrest⟩

theorem isUncut_piece (h : r.Cut front key t c u back) : Text.IsUncut h.piece := by
  obtain ⟨name, hname, hkey⟩ : ∃ name ∈ Definition.fieldNames, Key.text key = .text name :=
    key_of_mem_fields (r := r) (e := (.text key, .text (t ++ c :: u))) (by simp [h.fields_eq])
  obtain rfl : key = name := Key.text.inj hkey
  refine Json.isUncut_openTable rfl (fun e he => ?_) (Definition.isUncut_fieldName key hname _) ?_
  · exact isUncut_entryText (h.mem_fields he) (.inr (h.isFirstField e he))
  · exact Text.isUncut_flatMap.2 fun x hx => Json.isUncut_charText (.inr (h.isFirst x hx))

theorem exists_tagOfLine_eq_error (depth : Nat) (h : r.Cut front key t c u back) :
    ∃ line p, tagOfLine (depth + 1) h.piece = .error (.ctags (.notJson line p)) := by
  have hn : (Table.keys front).Nodup := by
    have hr := r.nodup_keys
    rw [h.fields_eq, Table.keys, List.map_append] at hr
    exact hr.sublist (List.sublist_append_left _ _)
  have hk : ∀ e ∈ front, ∃ t, e.1 = .text t := fun e he => exists_key (h.mem_fields he)
  have hr : ∀ e ∈ front, Json.Readable depth e.2 := fun e he =>
    readable_of_mem_fields (h.mem_fields he)
  obtain ⟨v, hv⟩ := Text.exists_eq_stripEnd_append (t.flatMap (Json.charText r.ascii))
  obtain ⟨p, hp⟩ := Json.read_openTable (d := 0) r.spaced_style hn hk hr key hv
  have hstrip : Text.strip h.piece =
      Json.openTable r.style 0 front key (Text.stripEnd (t.flatMap (Json.charText r.ascii))) :=
    Json.strip_openTable r.style 0 front key _
  have hne : Text.strip h.piece ≠ [] := by
    rw [hstrip]
    exact List.cons_ne_nil _ _
  have hread : readRecord (depth + 1) (Text.strip h.piece) =
      .error (.ctags (.notJson (Text.strip h.piece) p)) := by
    rw [← hstrip] at hp
    rw [readRecord, hp]
  refine ⟨Text.strip h.piece, p, ?_⟩
  rw [tagOfLine]
  simp only [if_neg hne, hread]
  rfl

end Cut

end Row

/-! ### Listings -/

/-- A line of an output is the record of a definition. -/
def tagsOfRows (depth : Nat) (rows : List Row) : Except Failure (List Tag) :=
  tagsOfText (depth + 1) (Text.join "\n" (rows.map Row.text))

theorem tagsOfRows_cons_of_isWhole (depth : Nat) {r : Row} (h : r.IsWhole) (rows : List Row) :
    tagsOfRows depth (r :: rows) = (tagsOfRows depth rows).map (r.definition.tag :: ·) := by
  rw [tagsOfRows, List.map_cons, tagsOfText,
    Text.universalLines_join_cons (Row.isUncut_text h) r.text_ne_nil, tagsOfLines,
    r.tagOfLine_text depth]
  rfl

theorem tagsOfRows_cons_of_not_isWhole (depth : Nat) {r : Row} (h : ¬ r.IsWhole) (rows : List Row) :
    ∃ line p, tagsOfRows depth (r :: rows) = .error (.ctags (.notJson line p)) := by
  obtain ⟨front, key, t, c, u, back, hcut⟩ := Row.exists_cut h
  obtain ⟨line, p, hline⟩ := hcut.exists_tagOfLine_eq_error depth
  obtain ⟨rest, hrest⟩ := hcut.exists_text_eq
  have hc := Json.mem_breaks_iff.1 hcut.isBreak
  have hr : c ≠ '\r' := by
    rintro rfl
    exact absurd hc.2 (by decide)
  refine ⟨line, p, ?_⟩
  rw [tagsOfRows, List.map_cons, Text.join_cons, hrest, List.append_assoc, List.cons_append,
    tagsOfText, Text.universalLines_append_cons hcut.isUncut_piece hc.1 hr, tagsOfLines, hline]

theorem tagsOfRows_of_isWhole (depth : Nat) {rows : List Row} (h : ∀ r ∈ rows, r.IsWhole) :
    tagsOfRows depth rows = .ok (rows.map fun r => r.definition.tag) := by
  induction rows with
  | nil => rfl
  | cons r rows ih =>
    rw [List.forall_mem_cons] at h
    rw [tagsOfRows_cons_of_isWhole depth h.1, ih h.2]
    rfl

/-- A newline behind the last record makes no difference. -/
theorem tagsOfText_ofLines (depth : Nat) {rows : List Row} (h : ∀ r ∈ rows, r.IsWhole) :
    tagsOfText (depth + 1) (Text.ofLines (rows.map Row.text)) =
      .ok (rows.map fun r => r.definition.tag) := by
  induction rows with
  | nil => rfl
  | cons r rows ih =>
    rw [List.forall_mem_cons] at h
    have hlines : Text.ofLines ((r :: rows).map Row.text) =
        r.text ++ '\n' :: Text.ofLines (rows.map Row.text) := by simp [Text.ofLines]
    rw [hlines, tagsOfText, Text.universalLines_append_cons (Row.isUncut_text h.1) rfl (by decide),
      tagsOfLines, r.tagOfLine_text depth]
    change Except.map _ (tagsOfText (depth + 1) (Text.ofLines (rows.map Row.text))) = _
    rw [ih h.2]
    rfl

theorem tagsOfRows_of_not_isWhole (depth : Nat) {rows : List Row} (h : ∃ r ∈ rows, ¬ r.IsWhole) :
    ∃ line p, tagsOfRows depth rows = .error (.ctags (.notJson line p)) := by
  induction rows with
  | nil => simp at h
  | cons r rows ih =>
    by_cases hr : r.IsWhole
    · obtain ⟨line, p, herr⟩ := ih (by simpa [hr] using h)
      refine ⟨line, p, ?_⟩
      rw [tagsOfRows_cons_of_isWhole depth hr, herr]
      rfl
    · exact tagsOfRows_cons_of_not_isWhole depth hr rows

/-- The tags of all definitions are read in order exactly if every record is whole. If one is not,
it is the format of the listing that is blamed. -/
theorem tagsOfText_rows (depth : Nat) (rows : List Row) :
    (tagsOfText (depth + 1) (Text.join "\n" (rows.map Row.text)) =
        .ok (rows.map fun r => r.definition.tag) ↔
        ∀ r ∈ rows, r.IsWhole) ∧
      ((∃ line p, tagsOfText (depth + 1) (Text.join "\n" (rows.map Row.text)) =
          .error (.ctags (.notJson line p))) ↔
        ∃ r ∈ rows, ¬ r.IsWhole) := by
  rw [← tagsOfRows]
  by_cases h : ∀ r ∈ rows, r.IsWhole
  · have hok := tagsOfRows_of_isWhole depth h
    refine ⟨⟨fun _ => h, fun _ => hok⟩, ?_⟩
    simpa [hok] using h
  · have hbad : ∃ r ∈ rows, ¬ r.IsWhole := by simpa using h
    obtain ⟨line, p, herr⟩ := tagsOfRows_of_not_isWhole depth hbad
    refine ⟨?_, fun _ => hbad, fun _ => ⟨line, p, herr⟩⟩
    simp only [herr, reduceCtorEq, false_iff]
    exact h

/-- A function with a line separator in the default value of its parameter. -/
def joinLines (ascii : Bool) : Row where
  definition := { path := "a.js", name := "join", kind := "function", signature := "(s = '\u2028')",
                  line := 3 }
  fits := by decide +kernel
  fields := [("_type", .text "tag"), ("path", .text "a.js"), ("name", .text "join"),
    ("kind", .text "function"), ("signature", .text "(s = '\u2028')"), ("line", .int 3)]
  perm := by decide
  ascii

theorem tagsOfText_joinLines :
    tagsOfText 985 (Text.join "\n" ([joinLines true].map Row.text)) =
        .ok [(joinLines true).definition.tag] ∧
      tagsOfText 985 (Text.join "\n" ([joinLines true, joinLines false].map Row.text)) ≠
        .ok ([joinLines true, joinLines false].map fun r => r.definition.tag) :=
  ⟨(tagsOfText_rows 984 [joinLines true]).1.2 (by decide),
    fun h => absurd ((tagsOfText_rows 984 [joinLines true, joinLines false]).1.1 h) (by decide)⟩

end Ctags

end ChangeFeed
