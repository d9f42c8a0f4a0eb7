import ChangeFeed.Proofs.Json.RoundTrip

/-!
# Which characters a written value has

The strings of a value are written without control characters (`isPlain_stringText`), so those of a
whole value come from the starts of its lines only (`framed_valueText`). A value without an
indentation has none at all, and one that is indented by spaces none but newlines.
-/

namespace ChangeFeed.Json

variable {s : Style} {ascii : Bool} {c : Char} {d depth : Nat} {t u : Text} {v : Value}

/-- A text without control characters. -/
def IsPlain (t : Text) : Prop := ∀ c ∈ t, 0x20 ≤ c.toNat

/-- A text without control characters other than those at the starts of lines. -/
def Style.Framed (s : Style) (t : Text) : Prop := ∀ c ∈ t, 0x20 ≤ c.toNat ∨ ∃ d, c ∈ s.newline d

instance (t : Text) : Decidable (IsPlain t) := List.decidableBAll _ t

theorem isPlain_nil : IsPlain [] := List.forall_mem_nil _

theorem isPlain_cons : IsPlain (c :: t) ↔ 0x20 ≤ c.toNat ∧ IsPlain t := List.forall_mem_cons

theorem isPlain_append : IsPlain (t ++ u) ↔ IsPlain t ∧ IsPlain u := List.forall_mem_append

namespace Style

theorem framed_cons : s.Framed (c :: t) ↔ (0x20 ≤ c.toNat ∨ ∃ d, c ∈ s.newline d) ∧ s.Framed t :=
  List.forall_mem_cons

theorem framed_append : s.Framed (t ++ u) ↔ s.Framed t ∧ s.Framed u := List.forall_mem_append

theorem Framed.of_isPlain (h : IsPlain t) : s.Framed t := fun c hc => .inl (h c hc)

theorem framed_newline (s : Style) (d : Nat) : s.Framed (s.newline d) := fun _ hc => .inr ⟨d, hc⟩

theorem framed_separator (s : Style) (d : Nat) : s.Framed (s.separator d) := by
  unfold separator
  split
  · exact .of_isPlain (by decide)
  · exact framed_cons.2 ⟨.inl (by decide), framed_newline s d⟩

end Style

/-! ### Strings and numbers -/

theorem isPlain_codeEscape {n : Nat} (h : n < 0x10000) : IsPlain (codeEscape n) := by
  have hd : ∀ d < 16, 0x20 ≤ d.digitChar.toNat := by decide
  rw [codeEscape_eq h]
  simp only [isPlain_cons]
  exact ⟨by decide, by decide, hd _ (by omega), hd _ (by omega), hd _ (by omega), hd _ (by omega),
    isPlain_nil⟩

theorem isPlain_charText (ascii : Bool) (c : Char) : IsPlain (charText ascii c) := by
  have hlt := toNat_bounds c
  unfold charText
  split
  · next hc => rcases hc with rfl | rfl <;> decide
  iterate 5
    split
    · decide
  split
  · split
    · next hc => exact isPlain_codeEscape hc
    · exact isPlain_append.2 ⟨isPlain_codeEscape (by omega), isPlain_codeEscape (by omega)⟩
  · next hesc =>
    rw [not_or, Nat.not_lt] at hesc
    exact isPlain_cons.2 ⟨hesc.1, isPlain_nil⟩

theorem isPlain_stringText (ascii : Bool) (t : Text) : IsPlain (stringText ascii t) := by
  have hchars : IsPlain (t.flatMap (charText ascii)) := by
    intro c hc
    obtain ⟨d, -, hd⟩ := List.mem_flatMap.1 hc
    exact isPlain_charText ascii d c hd
  exact isPlain_append.2 ⟨isPlain_cons.2 ⟨by decide, hchars⟩, by decide⟩

theorem isPlain_ofInt (i : Int) : IsPlain (Text.ofInt i) := by
  intro c hc
  rcases Text.mem_ofInt hc with rfl | hd
  · decide
  · have : 48 ≤ c.toNat ∧ c.toNat ≤ 57 := by
      simpa [Char.isDigit, UInt32.le_iff_toNat_le] using hd
    omega

/-! ### Values -/

theorem framed_elementsText {vs : List Value} (h : ∀ v ∈ vs, s.Framed (valueText s d v)) :
    s.Framed (elementsText s d vs) := by
  induction vs with
  | nil => exact .of_isPlain isPlain_nil
  | cons v vs ih =>
    obtain ⟨hv, hvs⟩ := List.forall_mem_cons.1 h
    rw [elementsText_cons, Style.framed_append, Style.framed_append]
    exact ⟨⟨s.framed_separator d, hv⟩, ih hvs⟩

theorem framed_entryText {e : Key × Value} (hk : ∃ t, e.1 = .text t)
    (h : s.Framed (valueText s d e.2)) : s.Framed (entryText s d e) := by
  obtain ⟨k, v⟩ := e
  obtain ⟨t, rfl⟩ : ∃ t, k = .text t := hk
  rw [entryText_text, Style.framed_append, Style.framed_append]
  exact ⟨⟨.of_isPlain (isPlain_stringText _ _), .of_isPlain (by decide)⟩, h⟩

theorem framed_entriesText {es : Table} (hk : ∀ e ∈ es, ∃ t, e.1 = .text t)
    (h : ∀ e ∈ es, s.Framed (valueText s d e.2)) : s.Framed (entriesText s d es) := by
  rw [entriesText_eq_flatMap]
  intro c hc
  obtain ⟨e, he, hc⟩ := List.mem_flatMap.1 hc
  exact Style.framed_append.2 ⟨s.framed_separator d, framed_entryText (hk e he) (h e he)⟩
    c hc

/-- The control characters in the text of a value are those at the starts of its lines. -/
theorem framed_valueText (h : Readable depth v) (s : Style) (d : Nat) :
    s.Framed (valueText s d v) := by
  induction h generalizing d with
  | null => exact .of_isPlain (by decide : IsPlain "null".toList)
  | bool b =>
    cases b with
    | false => exact .of_isPlain (by decide : IsPlain "false".toList)
    | true => exact .of_isPlain (by decide : IsPlain "true".toList)
  | int _ => exact .of_isPlain (isPlain_ofInt _)
  | text t => exact .of_isPlain (isPlain_stringText _ _)
  | @list _ vs _ ih =>
    cases vs with
    | nil => exact .of_isPlain (by decide : IsPlain "[]".toList)
    | cons v vs =>
      obtain ⟨hv, hvs⟩ := List.forall_mem_cons.1 fun w hw => ih w hw (d + 1)
      simp only [valueText_list_cons, List.cons_append, Style.framed_cons, Style.framed_append]
      exact ⟨.inl (by decide), ⟨⟨⟨s.framed_newline _, hv⟩, framed_elementsText hvs⟩,
        s.framed_newline _⟩, .inl (by decide), .of_isPlain isPlain_nil⟩
  | @table _ es _ hk _ ih =>
    cases es with
    | nil => exact .of_isPlain (by decide : IsPlain "\x7b\x7d".toList)
    | cons e es =>
      obtain ⟨he, hes⟩ := List.forall_mem_cons.1 fun w hw => ih w hw (d + 1)
      obtain ⟨hke, hkes⟩ := List.forall_mem_cons.1 hk
      have htext := valueText_table s d [] e es
      rw [List.nil_append] at htext
      rw [htext]
      simp only [List.cons_append, Style.framed_cons, Style.framed_append]
      exact ⟨.inl (by decide), ⟨⟨⟨⟨s.framed_newline _, .of_isPlain isPlain_nil⟩,
        framed_entryText hke he⟩, framed_entriesText hkes hes⟩, s.framed_newline _⟩,
        .inl (by decide),
        .of_isPlain isPlain_nil⟩

theorem isPlain_valueText (hs : s.indent = none) (h : Readable depth v) (d : Nat) :
    IsPlain (valueText s d v) := by
  intro c hc
  refine (framed_valueText h s d c hc).resolve_right ?_
  rintro ⟨d', hc⟩
  rw [Style.newline, hs] at hc
  cases hc

theorem IsPlain.newline_not_mem (h : IsPlain t) : '\n' ∉ t := fun hn =>
  absurd (h _ hn) (by decide)

theorem return_not_mem_valueText {n : Int} (hs : s.indent = some (.spaces n))
    (h : Readable depth v) (d : Nat) : '\r' ∉ valueText s d v := by
  intro hc
  rcases framed_valueText h s d _ hc with hplain | ⟨d', hc⟩
  · exact absurd hplain (by decide)
  · rw [Style.newline, hs] at hc
    rcases List.mem_cons.1 hc with heq | hc
    · exact absurd heq (by decide)
    · exact absurd (List.eq_of_mem_replicate hc) (by decide)

end ChangeFeed.Json
