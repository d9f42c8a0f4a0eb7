import ChangeFeed.Proofs.Json.RoundTrip
import ChangeFeed.Proofs.Text.Lines

/-!
# What is written in one line

Without an indentation, nothing in the text of a value ends a line but the `breaks`: these three
characters end a line and stand for themselves in a string, unless everything outside ASCII is
escaped. A table of texts and numbers that has none of them in its strings is one line.

Any other table is cut inside the string of an entry; `openTable` is the text of a table up to such
a place. No table is cut there in a way that goes unnoticed: reading gets through the entries in
front and then finds a string without an end (`read_openTable`).
-/

namespace ChangeFeed.Json

/-! ### Tables that break off -/

section

variable {s : Style} {d depth fuel : Nat} {es : Table} {t u v : Text}

/-- A table that breaks off behind the start `u` of the string of an entry. -/
def openTable (s : Style) (d : Nat) (es : Table) (key u : Text) : Text :=
  '\x7b' :: (s.newline (d + 1) ++
    (frontText s (d + 1) es ++ (stringText s.ascii key ++ (": " ++ '"' :: u))))

theorem exists_valueText_eq_openTable (s : Style) (d : Nat) (front back : Table) (key t u : Text) :
    ∃ rest, valueText s d (.table (front ++ (.text key, .text (t ++ u)) :: back)) =
      openTable s d front key (t.flatMap (charText s.ascii)) ++
        (u.flatMap (charText s.ascii) ++ rest) := by
  refine ⟨'"' :: (entriesText s (d + 1) back ++ (s.newline d ++ ['\x7d'])), ?_⟩
  rw [valueText_table, entryText_text, valueText_text, openTable]
  simp only [stringText, List.flatMap_append, List.append_assoc, List.cons_append, List.nil_append]

theorem strip_openTable (s : Style) (d : Nat) (es : Table) (key u : Text) :
    Text.strip (openTable s d es key u) = openTable s d es key (Text.stripEnd u) := by
  -- the last character that is certainly no blank is the opening quote of the string
  have hquote : ∀ w, openTable s d es key w = '\x7b' :: ((s.newline (d + 1) ++
      (frontText s (d + 1) es ++ (stringText s.ascii key ++ ": "))) ++ '"' :: w) := by
    intro w
    simp only [openTable, List.append_assoc]
  rw [hquote, Text.strip_cons_append_cons (by decide) (by decide), hquote]

theorem scanEntries_open (before : Table) (key : Text)
    (h : t.flatMap (charText s.ascii) = u ++ v) :
    ∃ f r, scanEntries depth (fuel + 2) before
      (stringText s.ascii key ++ (": " ++ '"' :: u)) = .error (.fault f r) := by
  obtain ⟨f, r, hf⟩ := scanString_of_open (o := '"' :: u) h
  have hvalue : scanValue depth (fuel + 1) ('"' :: u) = .error (.fault f r) := by
    rw [scanValue.eq_def]
    simp only [if_true, hf]
    rfl
  refine ⟨f, r, ?_⟩
  rw [stringText]
  simp only [List.append_assoc, List.cons_append, List.nil_append]
  rw [scanEntries.eq_2, scanString_stringText]
  have hcolon : skip ((": " : Text) ++ '"' :: u) = ':' :: ' ' :: '"' :: u := rfl
  have hspace : skip (' ' :: '"' :: u) = '"' :: u := rfl
  simp only [hcolon, hspace, hvalue]

theorem read_openTable (hs : s.Spaced) (hn : (Table.keys es).Nodup)
    (hk : ∀ e ∈ es, ∃ t, e.1 = .text t) (hr : ∀ e ∈ es, Readable depth e.2)
    (key : Text) (h : t.flatMap (charText s.ascii) = u ++ v) :
    ∃ p, read (depth + 1) (openTable s d es key u) = .error (.json p) := by
  have hv : ∀ e ∈ es, ReadsBack s (d + 1) depth e.2 := fun e he => readsBack hs (hr e he) (d + 1)
  have hlen : (frontText s (d + 1) es).length < (openTable s d es key u).length := by
    simp only [openTable, List.length_cons, List.length_append]
    omega
  have hbound : 2 * (frontText s (d + 1) es).length + 2 ≤
      2 * (openTable s d es key u).length + 1 := by omega
  obtain ⟨left, hleft, hscan⟩ := scanValue_frontText
    (u := stringText s.ascii key ++ (": " ++ '"' :: u)) hs hk hv hn rfl hbound
  obtain ⟨left, rfl⟩ : ∃ f, left = f + 2 := ⟨left - 2, by omega⟩
  obtain ⟨f, r, hopen⟩ : ∃ f r, scanEntries depth (left + 2) es
      (stringText s.ascii key ++ (": " ++ '"' :: u)) = .error (.fault f r) :=
    scanEntries_open es key h
  have hvalue : scanValue (depth + 1) (2 * (openTable s d es key u).length + 2)
      (openTable s d es key u) = .error (.fault f r) := by
    rw [hopen] at hscan
    exact hscan
  have hhead : (openTable s d es key u).head? ≠ some '\ufeff' := by
    rw [openTable, List.head?_cons]
    decide
  have hskip : skip (openTable s d es key u) = openTable s d es key u := rfl
  refine ⟨.placed f (openTable s d es key u) ((openTable s d es key u).length - r.length), ?_⟩
  rw [read, scanDocument, if_neg hhead, hskip, hvalue]
  rfl

end

/-! ### Lines -/

open Text

variable {ascii : Bool} {c : Char} {s : Style} {t : Text}

/-- The characters that end a line and are not always escaped. -/
def breaks : List Char := ['\x85', '\u2028', '\u2029']

/-- Whether a value is a text with one of the `breaks`. -/
def hasBreak : Value → Bool
  | .text t => t.any (· ∈ breaks)
  | _ => false

theorem hasBreak_text_iff : hasBreak (.text t) = true ↔ ∃ c ∈ t, c ∈ breaks := by
  simp [hasBreak]

theorem not_mem_breaks_of_hasBreak (h : hasBreak (.text t) = false) : ∀ c ∈ t, c ∉ breaks := by
  intro c hc hb
  exact absurd (hasBreak_text_iff.2 ⟨c, hc, hb⟩) (by simp [h])

theorem exists_of_hasBreak {v : Value} (h : hasBreak v = true) :
    ∃ t, v = .text t ∧ ∃ c ∈ t, c ∈ breaks := by
  cases v with
  | text t => exact ⟨t, rfl, hasBreak_text_iff.1 h⟩
  | _ => cases h

theorem mem_breaks_iff : c ∈ breaks ↔ isLineEnd c = true ∧ 0x20 ≤ c.toNat := by
  have heq : ∀ d : Char, c = d ↔ c.toNat = d.toNat := fun d => Char.toNat_inj.symm
  simp only [breaks, List.mem_cons, List.not_mem_nil, or_false, heq, isLineEnd, Bool.or_eq_true,
    Bool.and_eq_true, decide_eq_true_eq, beq_iff_eq]
  show c.toNat = 133 ∨ c.toNat = 8232 ∨ c.toNat = 8233 ↔ _
  omega

theorem charText_of_mem_breaks (h : c ∈ breaks) : charText false c = [c] := by
  simp only [breaks, List.mem_cons, List.not_mem_nil, or_false] at h
  rcases h with rfl | rfl | rfl <;> rfl

theorem isUncut_codeEscape {n : Nat} (h : n < 0x10000) : IsUncut (codeEscape n) := by
  have hd : ∀ d < 16, isLineEnd d.digitChar = false := by decide
  rw [codeEscape_eq h]
  simp only [isUncut_cons]
  exact ⟨by decide, by decide, hd _ (by omega), hd _ (by omega), hd _ (by omega), hd _ (by omega),
    isUncut_nil⟩

theorem isUncut_charText (h : ascii = true ∨ c ∉ breaks) : IsUncut (charText ascii c) := by
  have hlt := toNat_bounds c
  unfold charText
  split
  · next hc => rcases hc with rfl | rfl <;> decide
  iterate 5
    split
    · decide
  split
  · split
    · next hc => exact isUncut_codeEscape hc
    · exact isUncut_append.2 ⟨isUncut_codeEscape (by omega), isUncut_codeEscape (by omega)⟩
  · next hesc =>
    rw [not_or, not_and, Nat.not_lt, Nat.not_lt] at hesc
    refine isUncut_cons.2 ⟨?_, isUncut_nil⟩
    rw [← Bool.not_eq_true]
    intro hend
    have hb := mem_breaks_iff.2 ⟨hend, hesc.1⟩
    have ha : ascii = true := h.resolve_right (not_not_intro hb)
    have hle := hesc.2 ha
    simp only [breaks, List.mem_cons, List.not_mem_nil, or_false] at hb
    rcases hb with rfl | rfl | rfl <;> exact absurd hle (by decide)

theorem isUncut_stringText (h : ascii = true ∨ ∀ c ∈ t, c ∉ breaks) :
    IsUncut (stringText ascii t) := by
  have hchars : IsUncut (t.flatMap (charText ascii)) :=
    isUncut_flatMap.2 fun c hc => isUncut_charText (h.imp_right fun h => h c hc)
  exact isUncut_append.2 ⟨isUncut_cons.2 ⟨by decide, hchars⟩, by decide⟩

theorem isUncut_ofInt (i : Int) : IsUncut (ofInt i) := by
  have hnat : ∀ n, IsUncut (ofNat n) := by
    intro n c hc
    have hd : 48 ≤ c.toNat ∧ c.toNat ≤ 57 := by
      simpa [Char.isDigit, UInt32.le_iff_toNat_le] using isDigit_of_mem_ofNat hc
    simp only [isLineEnd, Bool.or_eq_false_iff, Bool.and_eq_false_iff, decide_eq_false_iff_not,
      beq_eq_false_iff_ne]
    omega
  cases i with
  | ofNat n => exact hnat n
  | negSucc n => exact isUncut_cons.2 ⟨by decide, hnat (n + 1)⟩

theorem isUncut_frontText (hs : s.indent = none) {es : Table} {d : Nat}
    (h : ∀ e ∈ es, IsUncut (entryText s d e)) : IsUncut (frontText s d es) := by
  have hsep : s.separator d = [',', ' '] := by
    rw [Style.separator, hs]
    rfl
  refine isUncut_flatMap.2 fun e he => isUncut_append.2 ⟨h e he, ?_⟩
  rw [hsep]
  decide

theorem newline_of_indent_eq_none (hs : s.indent = none) (d : Nat) : s.newline d = [] := by
  rw [Style.newline, hs]

theorem isUncut_table (hs : s.indent = none) {es : Table} {d : Nat}
    (h : ∀ e ∈ es, IsUncut (entryText s (d + 1) e)) : IsUncut (valueText s d (.table es)) := by
  have hline := newline_of_indent_eq_none hs
  rcases List.eq_nil_or_concat' es with rfl | ⟨front, e, rfl⟩
  · exact (by decide : IsUncut "\x7b\x7d".toList)
  · rw [valueText_table, hline, hline, entriesText]
    simp only [isUncut_append, isUncut_cons]
    exact ⟨⟨⟨⟨⟨⟨by decide, isUncut_nil⟩, isUncut_frontText hs fun e he => h e (by simp [he])⟩,
      h e (by simp)⟩, isUncut_nil⟩, isUncut_nil⟩, by decide, isUncut_nil⟩

theorem isUncut_openTable (hs : s.indent = none) {es : Table} {d : Nat} {key u : Text}
    (h : ∀ e ∈ es, IsUncut (entryText s (d + 1) e)) (hkey : IsUncut (stringText s.ascii key))
    (hu : IsUncut u) : IsUncut (openTable s d es key u) := by
  rw [openTable, newline_of_indent_eq_none hs]
  simp only [isUncut_append, isUncut_cons]
  exact ⟨by decide, isUncut_nil, isUncut_frontText hs h, hkey, by decide, by decide, hu⟩

end ChangeFeed.Json
