import ChangeFeed.Ctags.Records
import ChangeFeed.Proofs.Json.Completeness
import ChangeFeed.Proofs.KeptOrder

/-!
# Records are read line by line

What is in front of a newline is read without what is behind it, and the other way round
(`tagsOfText_append_newline`), though a line may end in front of the newline already. So a line in
which no tag is found can stand anywhere (`tagsOfText_join_of_interleaves`).

`IsAside` says which lines are meant to be of this kind: blank ones, and records in ASCII of
another type than `tag`. They are read without a failure as long as a record keeps the limits of the
reader of JSON, and only then (`IsAside.tagsOfText_cases`).
-/

namespace ChangeFeed.Ctags

open Text

variable {digits depth limit : Nat} {line t u : Text} {v : Value}

/-! ### Newlines between records -/

theorem tagsOfText_append_newline (t u : Text) :
    tagsOfText limit (t ++ '\n' :: u) =
      (tagsOfText limit t).bind fun ts => (tagsOfText limit u).map (ts ++ ·) := by
  rw [tagsOfText, ← tagsOfLines_filter, filter_universalLines_append_newline, tagsOfLines_append,
    tagsOfLines_filter, tagsOfLines_filter]
  rfl

theorem tagsOfText_join_cons (line : Text) (lines : List Text) :
    tagsOfText limit (join "\n" (line :: lines)) =
      (tagsOfText limit line).bind fun ts =>
        (tagsOfText limit (join "\n" lines)).map (ts ++ ·) := by
  rw [join_cons]
  split
  · next hnil =>
    have hend : tagsOfText limit (join "\n" []) = .ok [] := rfl
    rw [hnil, List.append_nil, hend]
    cases tagsOfText limit line with
    | error f => rfl
    | ok ts => simp [Except.bind, Except.map]
  · exact tagsOfText_append_newline line _

theorem tagsOfText_join_cons_of_nil (h : tagsOfText limit line = .ok []) (lines : List Text) :
    tagsOfText limit (join "\n" (line :: lines)) = tagsOfText limit (join "\n" lines) := by
  rw [tagsOfText_join_cons, h]
  cases tagsOfText limit (join "\n" lines) <;> rfl

theorem tagsOfText_join_of_interleaves {lines inserted all : List Text}
    (hi : Interleaves lines inserted all) (h : ∀ line ∈ inserted, tagsOfText limit line = .ok []) :
    tagsOfText limit (join "\n" all) = tagsOfText limit (join "\n" lines) := by
  induction hi with
  | nil => rfl
  | left _ ih => rw [tagsOfText_join_cons, tagsOfText_join_cons, ih h]
  | right _ ih =>
    obtain ⟨hline, h⟩ := List.forall_mem_cons.1 h
    rw [tagsOfText_join_cons_of_nil hline, ih h]

theorem exists_tagsOfText_join_eq_error {lines : List Text} {f : Failure} (hline : line ∈ lines)
    (h : tagsOfText limit line = .error f) :
    ∃ g, tagsOfText limit (join "\n" lines) = .error g := by
  induction lines with
  | nil => cases hline
  | cons first lines ih =>
    rw [tagsOfText_join_cons]
    rcases List.mem_cons.1 hline with rfl | hline
    · exact ⟨f, by rw [h]; rfl⟩
    · obtain ⟨g, hg⟩ := ih hline
      rw [hg]
      cases tagsOfText limit first with
      | error g' => exact ⟨g', rfl⟩
      | ok ts => exact ⟨g, rfl⟩

theorem join_splitLines (t : Text) : join "\n" (splitLines t) = t :=
  List.intercalate_splitOn '\n'

/-! ### Blank lines -/

theorem tagOfLine_of_blank (h : ∀ c ∈ line, isBlank c = true) :
    tagOfLine limit line = .ok none := by
  rw [tagOfLine, strip_of_blank h]
  rfl

theorem tagsOfLines_cons_of_none (h : tagOfLine limit line = .ok none) (lines : List Text) :
    tagsOfLines limit (line :: lines) = tagsOfLines limit lines := by
  rw [tagsOfLines, h]
  cases tagsOfLines limit lines <;> rfl

/-- Blanks may end lines, and each of these lines is blank. -/
theorem tagsOfLines_universalFrom_of_blank (hline : ∀ c ∈ line, isBlank c = true)
    (ht : ∀ c ∈ t, isBlank c = true) : tagsOfLines limit (universalFrom line t) = .ok [] := by
  have hnone : ∀ line : Text, (∀ c ∈ line, isBlank c = true) →
      tagOfLine limit line.reverse = .ok none := fun line h =>
    tagOfLine_of_blank fun c hc => h c (List.mem_reverse.1 hc)
  fun_induction universalFrom line t with
  | case1 => rfl
  | case2 line _ => exact tagsOfLines_cons_of_none (hnone line hline) []
  | case3 line t ih =>
    rw [tagsOfLines_cons_of_none (hnone line hline)]
    exact ih (List.forall_mem_nil _) fun c hc => ht c (by simp [hc])
  | case4 line c t _ _ ih =>
    rw [tagsOfLines_cons_of_none (hnone line hline)]
    exact ih (List.forall_mem_nil _) fun c hc => ht c (List.mem_cons_of_mem _ hc)
  | case5 line c t _ _ ih =>
    obtain ⟨hc, ht⟩ := List.forall_mem_cons.1 ht
    exact ih (List.forall_mem_cons.2 ⟨hc, hline⟩) ht

/-! ### Records of another type -/

theorem isBlank_of_isSpace {c : Char} (h : Json.isSpace c = true) : isBlank c = true := by
  simp only [Json.isSpace, Bool.or_eq_true, beq_iff_eq] at h
  rcases h with ((rfl | rfl) | rfl) | rfl <;> decide

theorem exists_eq_brace (h : Json.Spells digits depth t v) (hv : v.isTable = true) :
    ∃ u, t = '\x7b' :: (u ++ ['\x7d']) := by
  cases h with
  | @named _ n hn =>
    have hnames : ∀ n ∈ Json.named, n.2.isTable = false := by decide
    exact absurd hv (by simp [hnames n hn])
  | number n =>
    rw [Json.Number.value] at hv
    split at hv
    · cases hv
    · cases hv
  | text => exact absurd hv (by simp [Value.isTable_ofPoints])
  | emptyList => cases hv
  | list => cases hv
  | emptyTable => exact ⟨_, rfl⟩
  | table => exact ⟨_, rfl⟩

theorem strip_padded (before after : Json.Gap) (h : Json.Spells digits depth t v)
    (hv : v.isTable = true) : strip (before.text ++ (t ++ after.text)) = t := by
  obtain ⟨u, rfl⟩ := exists_eq_brace h hv
  have hbefore := strip_append_of_blank fun c hc => isBlank_of_isSpace (before.spaced c hc)
  have hafter := stripEnd_of_blank fun c hc => isBlank_of_isSpace (after.spaced c hc)
  rw [hbefore, List.cons_append, List.append_assoc, List.singleton_append,
    strip_cons_append_cons (by decide) (by decide), hafter]

/-- A line in which no tag should be found: a blank one, or a record in ASCII of another type than
`tag`, which is written in JSON within these limits. -/
inductive IsAside (digits depth : Nat) (line : Text) : Prop
  | blank (blank : isAllBlank line = true)
  | record {t : Text} {fields : Table} (before after : Json.Gap)
    (text : line = before.text ++ (t ++ after.text))
    (json : Json.Spells digits depth t (.table fields))
    (type : fields.get? "_type" ≠ some (.text "tag"))
    (ascii : IsAsciiLine line)

theorem isTidy_padded (before after : Json.Gap) (h : Json.Spells digits depth t v) :
    Json.IsTidy (before.text ++ (t ++ after.text)) :=
  Json.isTidy_append.2 ⟨before.isTidy, Json.isTidy_append.2 ⟨h.isTidy, after.isTidy⟩⟩

theorem tagsOfText_padded (before after : Json.Gap) (h : Json.Spells digits depth t v)
    (hv : v.isTable = true) (huncut : IsUncut (before.text ++ (t ++ after.text))) :
    tagsOfText limit (before.text ++ (t ++ after.text)) =
      (readRecord limit t >>= tagOfRecord t).map Option.toList := by
  have hstrip := strip_padded before after h hv
  obtain ⟨u, ht⟩ := exists_eq_brace h hv
  have hne : t ≠ [] := by
    rw [ht]
    exact List.cons_ne_nil _ _
  have hline : universalLines (before.text ++ (t ++ after.text)) =
      [before.text ++ (t ++ after.text)] :=
    universalLines_of_isUncut huncut (by simp [hne])
  rw [tagsOfText, hline, tagsOfLines, tagOfLine, hstrip]
  simp only [if_neg hne]
  cases readRecord limit t >>= tagOfRecord t with
  | error f => rfl
  | ok tag => simp [tagsOfLines, Except.map]

theorem tagOfRecord_of_type_ne {fields : Table}
    (h : fields.get? "_type" ≠ some (.text "tag")) : tagOfRecord t (.table fields) = .ok none := by
  rw [tagOfRecord, Value.entriesFor]
  refine if_neg ?_
  simpa only [Option.any_eq_true, Value.isText_iff, exists_eq_right] using h

namespace IsAside

/-- Within the limits of the reader, there is nothing to find in an aside. -/
theorem tagsOfText_eq (h : IsAside Numeral.maxDigits limit line) :
    tagsOfText limit line = .ok [] := by
  cases h with
  | blank blank => exact tagsOfLines_universalFrom_of_blank nofun (List.all_eq_true.1 blank)
  | @record t fields before after text json type ascii =>
    subst text
    have huncut := (isTidy_padded before after json).isUncut ascii
    have hread : readRecord limit t = .ok (.table fields) := by
      rw [readRecord, json.read_eq]
    rw [tagsOfText_padded before after json rfl huncut, hread]
    exact congrArg (Except.map Option.toList) (tagOfRecord_of_type_ne type)

/-- Beyond the limits of the reader, an aside cannot be read. -/
theorem tagsOfText_cases (h : IsAside digits depth line) :
    IsAside Numeral.maxDigits limit line ∨ ∃ f, tagsOfText limit line = .error f := by
  cases h with
  | blank blank => exact .inl (.blank blank)
  | @record t fields before after text json type ascii =>
    rcases json.read_or limit with ⟨-, hwithin⟩ | ⟨s, -, hread⟩
    · exact .inl (.record before after text hwithin type ascii)
    · refine .inr ?_
      subst text
      have huncut := (isTidy_padded before after json).isUncut ascii
      rw [tagsOfText_padded before after json rfl huncut, readRecord, hread]
      cases s.toFailure t with
      | json p => exact ⟨_, rfl⟩
      | _ => exact ⟨_, rfl⟩

end IsAside

/-- What is in front of a newline and what is behind it are read apart, and the first of the two
that cannot be read decides about the failure. Asides within the limits of the reader of JSON can be
put between the lines of a text, any number of them in any places, and its tags or its failure stay
the same. With an aside beyond the limits between its lines, no text can be read. -/
theorem tagsOfText_memoryless (limit : Nat) (t : Text) :
    (∀ u, tagsOfText limit (t ++ '\n' :: u) =
        (tagsOfText limit t).bind fun ts => (tagsOfText limit u).map (ts ++ ·)) ∧
      ∀ inserted all, Interleaves (splitLines t) inserted all →
        ((∀ line ∈ inserted, IsAside Numeral.maxDigits limit line) →
          tagsOfText limit (join "\n" all) = tagsOfText limit t) ∧
        (∀ line ∈ inserted, ∀ digits depth, IsAside digits depth line →
          ¬ IsAside Numeral.maxDigits limit line →
            ∃ f, tagsOfText limit (join "\n" all) = .error f) := by
  refine ⟨tagsOfText_append_newline t, fun inserted all hi => ⟨fun h => ?_, ?_⟩⟩
  · rw [tagsOfText_join_of_interleaves hi fun line hline => (h line hline).tagsOfText_eq,
      join_splitLines]
  · intro line hline digits depth haside hbeyond
    obtain ⟨f, hf⟩ := haside.tagsOfText_cases.resolve_left hbeyond
    exact exists_tagsOfText_join_eq_error (hi.mem_iff.2 (.inr hline)) hf

/-- The record of something that is no tag. -/
def remark : Text := " \x7b\"_type\": \"ptag\"\x7d"

theorem isAside_remark (digits depth : Nat) : IsAside digits (depth + 1) remark := by
  let nothing : Json.Gap := ⟨[], nofun⟩
  let space : Json.Gap := ⟨[' '], List.forall_mem_singleton.2 rfl⟩
  have hkey : Json.SpellsCodes "_type" _ :=
    Json.IsPlain.spellsCodes (by decide) (by decide) (by decide)
  have hvalue : Json.Spells digits depth "\"ptag\"" (.text "ptag") :=
    .text (Json.IsPlain.spellsCodes (t := "ptag") (by decide) (by decide) (by decide))
  let type : Json.Entry :=
    ⟨nothing, "_type", _, hkey, nothing, ⟨space, "\"ptag\"", .text "ptag", nothing⟩⟩
  have hjson := Json.Spells.table (List.cons_ne_nil type []) (List.forall_mem_singleton.2 hvalue)
  have htype : Table.get? "_type" [(.text "_type", .text "ptag")] ≠ some (.text "tag") := by decide
  exact .record space nothing rfl hjson htype (by decide)

/-- The record of a tag, with a carriage return behind it. -/
def fooLine : Text :=
  "\x7b\"_type\": \"tag\", \"name\": \"Foo\", \"path\": \"a.go\", \"line\": 1\x7d\r"

def barLine : Text :=
  "\x7b\"_type\": \"tag\", \"name\": \"Bar\", \"path\": \"b.go\", \"line\": 2\x7d"

/-- The record of a number of `n + 1` digits. -/
def numberLine (n : Nat) : Text :=
  ['\x7b', '"', 'n', '"', ':', ' '] ++ (List.replicate (n + 1) '1' ++ ['\x7d'])

def ones (n : Nat) : Json.Number where
  negative := false
  whole := List.replicate (n + 1) '1'
  isWhole := by
    refine .inr ⟨⟨List.cons_ne_nil _ _, fun c hc => ?_⟩, ?_⟩
    · rw [List.eq_of_mem_replicate hc]
      decide
    · simp [List.replicate_succ]
  fraction := none
  isFraction := nofun
  exponent := none

/-- The entry of a number. -/
def numberEntry (n : Nat) : Json.Entry where
  before := ⟨[], nofun⟩
  keyText := "n"
  codes := _
  spells := Json.IsPlain.spellsCodes (by decide) (by decide) (by decide)
  after := ⟨[], nofun⟩
  element := ⟨⟨[' '], List.forall_mem_singleton.2 rfl⟩, (ones n).text, (ones n).value, ⟨[], nofun⟩⟩

theorem numberLine_eq (n : Nat) :
    numberLine n = '\x7b' :: (join "," ([numberEntry n].map Json.Entry.padded) ++ ['\x7d']) := by
  rw [List.map_singleton, Json.join_one]
  simp [numberLine, numberEntry, Json.Entry.padded, Json.Element.padded, Json.Number.text,
    Json.Number.unsignedText, Json.Number.fractionText, Json.Number.exponentText, ones]

theorem numberLine_subset (n : Nat) : numberLine n ⊆ numberLine 0 := by
  intro c hc
  rw [numberLine, List.mem_append, List.mem_append] at hc ⊢
  refine hc.imp_right fun hc => hc.imp_left fun hc => ?_
  rw [List.eq_of_mem_replicate hc]
  exact List.mem_cons_self

theorem spells_numberLine (n depth : Nat) :
    Json.Spells (n + 1) (depth + 1) (numberLine n) (.table [(.text "n", (ones n).value)]) := by
  have hvalue : Json.Spells (n + 1) depth (ones n).text (ones n).value :=
    .number (ones n) fun _ => List.length_replicate.le
  rw [numberLine_eq]
  exact .table (List.cons_ne_nil _ _) (List.forall_mem_singleton.2 hvalue)

theorem isAside_numberLine (n : Nat) : IsAside (n + 1) 1 (numberLine n) := by
  have htype : Table.get? "_type" [(.text "n", (ones n).value)] ≠ some (.text "tag") := by
    simp [Table.get?]
  have hascii : IsAsciiLine (numberLine 0) := by decide
  exact .record ⟨[], nofun⟩ ⟨[], nofun⟩ (List.append_nil _).symm (spells_numberLine n 0) htype
    fun c hc => hascii c (numberLine_subset n hc)

theorem tagsOfText_numberLine (n : Nat) (h : Numeral.maxDigits ≤ n) :
    tagsOfText (limit + 1) (numberLine n) = .error (.numeral (.tooLong (n + 1))) := by
  have hlong : (ones n).outcome = .error (.number (.tooLong (n + 1))) := by
    have hlength : (ones n).whole.length = n + 1 := List.length_replicate
    rw [Json.Number.outcome, hlength, if_pos ⟨rfl, Nat.lt_succ_of_le h⟩]
  have hscan : Json.ScansTo (limit + 1) (numberLine n)
      (.error (.number (.tooLong (n + 1)))) := by
    have hone : ∀ e ∈ [numberEntry n], Json.ScansTo limit e.element.text (ones n).outcome :=
      List.forall_mem_singleton.2 (Json.scansTo_number (ones n) limit)
    have htable := Json.scansTo_table (List.cons_ne_nil (numberEntry n) []) hone
    rw [← numberLine_eq, hlong] at htable
    exact htable
  have hread : readRecord (limit + 1) (numberLine n) = .error (.numeral (.tooLong (n + 1))) := by
    rw [readRecord, Json.read, hscan.scanDocument]
    rfl
  have huncut : IsUncut (numberLine 0) := by decide
  have hline : tagsOfText (limit + 1) ([] ++ (numberLine n ++ [])) = _ :=
    tagsOfText_padded ⟨[], nofun⟩ ⟨[], nofun⟩ (spells_numberLine n 0) rfl (by
      rw [List.nil_append, List.append_nil]
      exact fun c hc => huncut c (numberLine_subset n hc))
  rw [List.nil_append, List.append_nil, hread] at hline
  exact hline

theorem not_isAside_numberLine (n : Nat) (h : Numeral.maxDigits ≤ n) :
    ¬ IsAside Numeral.maxDigits (limit + 1) (numberLine n) := by
  intro haside
  cases haside.tagsOfText_eq.symm.trans (tagsOfText_numberLine n h)

theorem tagsOfText_memoryless_fooLine :
    let t := fooLine ++ '\n' :: barLine
    let inserted := [remark, [], remark]
    let all := [remark, fooLine, [], remark, barLine]
    (Interleaves (splitLines t) inserted all ∧
      (∀ line ∈ inserted, IsAside Numeral.maxDigits 985 line) ∧
      tagsOfText 985 (join "\n" all) =
        .ok [⟨.text "a.go", .text "Foo", .text [], .text [], 1⟩,
          ⟨.text "b.go", .text "Bar", .text [], .text [], 2⟩]) ∧
      Interleaves (splitLines barLine) [numberLine 4300] [barLine, numberLine 4300] ∧
      IsAside 4301 1 (numberLine 4300) ∧
      ¬ IsAside Numeral.maxDigits 985 (numberLine 4300) ∧
      ∃ f, tagsOfText 985 (join "\n" [barLine, numberLine 4300]) = .error f := by
  intro t inserted all
  have hbar : splitLines barLine = [barLine] := splitLines_of_not_mem (by decide)
  have hi : Interleaves (splitLines t) inserted all := by
    rw [splitLines_append_newline, splitLines_of_not_mem (by decide), hbar]
    exact .right (.left (.right (.right (.left .nil))))
  have hasides : ∀ line ∈ inserted, IsAside Numeral.maxDigits 985 line := by
    have hremark : IsAside Numeral.maxDigits 985 remark := isAside_remark _ 984
    simp only [inserted, List.forall_mem_cons]
    exact ⟨hremark, .blank rfl, hremark, nofun⟩
  have hnumber : Interleaves (splitLines barLine) [numberLine 4300] [barLine, numberLine 4300] := by
    rw [hbar]
    exact .left (.right .nil)
  have haside := isAside_numberLine 4300
  have hbeyond : ¬ IsAside Numeral.maxDigits 985 (numberLine 4300) :=
    not_isAside_numberLine 4300 (by decide)
  refine ⟨⟨hi, hasides, ?_⟩, hnumber, haside, hbeyond, ?_⟩
  · rw [((tagsOfText_memoryless 985 t).2 inserted all hi).1 hasides]
    decide +kernel
  · exact ((tagsOfText_memoryless 985 barLine).2 _ _ hnumber).2 _ List.mem_cons_self _ _ haside
      hbeyond

/-- One digit too many in a record that counts for nothing, and no tag is found any more. -/
theorem tagsOfText_join_numberLine :
    Interleaves (splitLines barLine) [numberLine 4300] [barLine, numberLine 4300] ∧
      IsAside 4301 1 (numberLine 4300) ∧
      tagsOfText 985 barLine = .ok [⟨.text "b.go", .text "Bar", .text [], .text [], 2⟩] ∧
      tagsOfText 985 (join "\n" [barLine, numberLine 4300]) =
        .error (.numeral (.tooLong 4301)) := by
  have hline : splitLines barLine = [barLine] := splitLines_of_not_mem (by decide)
  have hbar :
      tagsOfText 985 barLine = .ok [⟨.text "b.go", .text "Bar", .text [], .text [], 2⟩] := by
    decide +kernel
  refine ⟨hline ▸ .left (.right .nil), isAside_numberLine 4300, hbar, ?_⟩
  rw [tagsOfText_join_cons, tagsOfText_join_cons, hbar, tagsOfText_numberLine 4300 (by decide)]
  rfl

end ChangeFeed.Ctags
