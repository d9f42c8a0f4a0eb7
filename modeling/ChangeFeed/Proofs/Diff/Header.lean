import ChangeFeed.Diff.Document
import ChangeFeed.Diff.Header
import ChangeFeed.Proofs.Text.Scan

/-!
# What the headers of a diff look like

The scanners of header lines accept exactly the lines that `scanFileHeader?_eq_some_iff` and
`scanHunkHeader?_eq_some_iff` write out. Both look at the start of a line only, so a carriage return
at its end makes no header of a line that is none (`scanFileHeader?_dropReturn`). A line is of one
kind, and the mark in front of a line of content keeps it from being a header whatever its text is.
-/

namespace ChangeFeed.Diff

open Text

/-! ### The header of a file -/

/-- A path that the header of a file can show: it has characters, and none of them is a blank. -/
def IsPlainPath (path : Text) : Prop := path ≠ [] ∧ ∀ c ∈ path, isBlank c = false

instance (path : Text) : Decidable (IsPlainPath path) :=
  -- the characters of the path are gone through, not all that there are
  have : Decidable (∀ c ∈ path, isBlank c = false) := List.decidableBAll _ path
  inferInstanceAs (Decidable (_ ∧ _))

theorem scanPath_eq_iff {t path rest : Text} :
    scanPath t = (path, rest) ↔
      t = path ++ rest ∧ (∀ c ∈ path, isBlank c = false) ∧ ∀ c ∈ rest.head?, isBlank c = true := by
  rw [scanPath, span_eq_iff]
  simp only [Bool.not_eq_true', Bool.not_eq_false']

theorem scanFileHeader?_eq_some_iff {line path : Text} :
    scanFileHeader? line = some path ↔
      IsPlainPath path ∧ ∃ c rest, isBlank c = false ∧
        line = "diff --git a/" ++ path ++ " b/" ++ c :: rest := by
  constructor
  · intro h
    unfold scanFileHeader? at h
    split at h
    · cases h
    next t ht =>
    rcases hp : scanPath t with ⟨p, u⟩
    obtain ⟨rfl, hpb, -⟩ := scanPath_eq_iff.1 hp
    simp only [hp] at h
    split at h
    · cases h
    next v hv =>
    split at h
    · cases h
    next hne =>
    cases h
    rw [not_or] at hne
    rcases hq : scanPath v with ⟨q, w⟩
    obtain ⟨rfl, hqb, -⟩ := scanPath_eq_iff.1 hq
    rw [hq] at hne
    cases q with
    | nil => exact absurd rfl hne.2
    | cons c q =>
      refine ⟨⟨hne.1, hpb⟩, c, q ++ w, hqb c (by simp), ?_⟩
      rw [rest?_eq_some_iff.1 ht, rest?_eq_some_iff.1 hv]
      simp
  · rintro ⟨⟨hne, hb⟩, c, rest, hc, rfl⟩
    have h₁ : rest? "diff --git a/" ("diff --git a/" ++ path ++ " b/" ++ c :: rest) =
        some (path ++ (" b/" ++ c :: rest)) := rest?_eq_some_iff.2 (by simp)
    have h₂ : scanPath (path ++ (" b/" ++ c :: rest)) = (path, " b/" ++ c :: rest) :=
      scanPath_eq_iff.2 ⟨rfl, hb, by simp; decide⟩
    have h₃ : rest? " b/" (" b/" ++ c :: rest) = some (c :: rest) := rest?_eq_some_iff.2 rfl
    have h₄ : (scanPath (c :: rest)).1 ≠ [] := by
      rcases hq : scanPath (c :: rest) with ⟨q, w⟩
      obtain ⟨h, -, hw⟩ := scanPath_eq_iff.1 hq
      rintro rfl
      rw [List.nil_append] at h
      subst h
      simp [hc] at hw
    simp only [scanFileHeader?, h₁, h₂, h₃, hne, h₄, or_self, if_false]

theorem isPlainPath_of_scanFileHeader? {line path : Text} (h : scanFileHeader? line = some path) :
    IsPlainPath path := (scanFileHeader?_eq_some_iff.1 h).1

theorem scanFileHeader?_append {line path : Text} (h : scanFileHeader? line = some path)
    (rest : Text) : scanFileHeader? (line ++ rest) = some path := by
  obtain ⟨hp, c, r, hc, rfl⟩ := scanFileHeader?_eq_some_iff.1 h
  exact scanFileHeader?_eq_some_iff.2 ⟨hp, c, r ++ rest, hc, by simp⟩

/-! ### The header of a hunk -/

/-- A run of digits. -/
def IsDigits (ds : Text) : Prop := ds ≠ [] ∧ ∀ c ∈ ds, isDecimal c = true

theorem isDigits_ofNat (n : Nat) : IsDigits (ofNat n) :=
  ⟨ofNat_ne_nil n, fun _ => isDecimal_of_mem_ofNat⟩

theorem scanDigits?_eq_some_iff {t ds rest : Text} :
    scanDigits? t = some (ds, rest) ↔
      t = ds ++ rest ∧ IsDigits ds ∧ ∀ c ∈ rest.head?, isDecimal c = false := by
  rcases hs : t.span isDecimal with ⟨es, u⟩
  have hi := span_eq_iff.1 hs
  constructor
  · intro h
    unfold scanDigits? at h
    rw [hs] at h
    cases es with
    | nil => cases h
    | cons e es =>
      cases h
      exact ⟨hi.1, ⟨by simp, hi.2.1⟩, hi.2.2⟩
  · rintro ⟨ht, hd, hr⟩
    have h := hs.symm.trans (span_eq_iff.2 ⟨ht, hd.2, hr⟩)
    cases h
    unfold scanDigits?
    rw [hs]
    cases ds with
    | nil => exact absurd rfl hd.1
    | cons d ds => rfl

namespace Span

/-- The side as a header has it. -/
def render (s : Span) : Text :=
  match s.count with
  | none => s.start
  | some ds => s.start ++ ',' :: ds

/-- Whether start and count are runs of digits. -/
def IsNumeric (s : Span) : Prop := IsDigits s.start ∧ ∀ ds ∈ s.count, IsDigits ds

end Span

theorem scanSpan?_render_append {s : Span} (hs : s.IsNumeric) (rest : Text) :
    scanSpan? (s.render ++ ' ' :: rest) = some (s, ' ' :: rest) := by
  obtain ⟨start, count⟩ := s
  have hblank : isDecimal ' ' = false := by decide
  have hcomma : isDecimal ',' = false := by decide
  cases count with
  | none =>
    have h : scanDigits? (start ++ ' ' :: rest) = some (start, ' ' :: rest) :=
      scanDigits?_eq_some_iff.2 ⟨rfl, hs.1, by simpa using hblank⟩
    simp [scanSpan?, Span.render, h]
  | some count =>
    have h₁ : scanDigits? (start ++ ',' :: (count ++ ' ' :: rest)) =
        some (start, ',' :: (count ++ ' ' :: rest)) :=
      scanDigits?_eq_some_iff.2 ⟨rfl, hs.1, by simpa using hcomma⟩
    have h₂ : scanDigits? (count ++ ' ' :: rest) = some (count, ' ' :: rest) :=
      scanDigits?_eq_some_iff.2 ⟨rfl, hs.2 count rfl, by simpa using hblank⟩
    simp [scanSpan?, Span.render, h₁, h₂]

theorem eq_render_of_scanSpan? {t rest : Text} {s : Span} (h : scanSpan? t = some (s, rest)) :
    s.IsNumeric ∧ t = s.render ++ rest := by
  unfold scanSpan? at h
  split at h
  · cases h
  next start u hu =>
  obtain ⟨rfl, hstart, -⟩ := scanDigits?_eq_some_iff.1 hu
  split at h
  · split at h
    · cases h
    next count r hr =>
    obtain ⟨rfl, hcount, -⟩ := scanDigits?_eq_some_iff.1 hr
    cases h
    exact ⟨⟨hstart, by simpa using hcount⟩, by simp [Span.render]⟩
  · cases h
    exact ⟨⟨hstart, by simp⟩, rfl⟩

theorem scanHunkHeader?_eq_some_iff {line : Text} {old new : Span} :
    scanHunkHeader? line = some (old, new) ↔
      old.IsNumeric ∧ new.IsNumeric ∧ ∃ rest,
        line = "@@ -" ++ old.render ++ " +" ++ new.render ++ " @@" ++ rest := by
  simp only [scanHunkHeader?, Option.bind_eq_bind, Option.pure_def, Option.bind_eq_some_iff,
    Option.some.injEq, Prod.mk.injEq, Prod.exists]
  constructor
  · rintro ⟨t, ht, o, u, ho, v, hv, n, w, hn, r, hr, rfl, rfl⟩
    obtain ⟨hold, rfl⟩ := eq_render_of_scanSpan? ho
    obtain ⟨hnew, rfl⟩ := eq_render_of_scanSpan? hn
    refine ⟨hold, hnew, r, ?_⟩
    rw [rest?_eq_some_iff.1 ht, rest?_eq_some_iff.1 hv, rest?_eq_some_iff.1 hr]
    simp
  · rintro ⟨hold, hnew, rest, rfl⟩
    have ho := scanSpan?_render_append hold ('+' :: (new.render ++ ' ' :: '@' :: '@' :: rest))
    have hn := scanSpan?_render_append hnew ('@' :: '@' :: rest)
    refine ⟨_, rest?_eq_some_iff.2 ?_, old, _, ho, _, rest?_eq_some_iff.2 ?_, new, _, hn,
      rest, rest?_eq_some_iff.2 ?_, rfl, rfl⟩ <;> simp

theorem scanHunkHeader?_append {line : Text} {h : Span × Span} (hl : scanHunkHeader? line = some h)
    (rest : Text) : scanHunkHeader? (line ++ rest) = some h := by
  obtain ⟨hold, hnew, r, rfl⟩ := scanHunkHeader?_eq_some_iff.1 hl
  exact scanHunkHeader?_eq_some_iff.2 ⟨hold, hnew, r ++ rest, by simp⟩

/-! ### Kinds of lines -/

theorem scanFileHeader?_dropReturn {line : Text} (h : scanFileHeader? line = none) :
    scanFileHeader? (dropReturn line) = none := by
  obtain ⟨r, hr⟩ := exists_eq_dropReturn_append line
  cases hd : scanFileHeader? (dropReturn line) with
  | none => rfl
  | some path => rw [hr, scanFileHeader?_append hd r] at h; cases h

theorem scanHunkHeader?_dropReturn {line : Text} (h : scanHunkHeader? line = none) :
    scanHunkHeader? (dropReturn line) = none := by
  obtain ⟨r, hr⟩ := exists_eq_dropReturn_append line
  cases hd : scanHunkHeader? (dropReturn line) with
  | none => rfl
  | some p => rw [hr, scanHunkHeader?_append hd r] at h; cases h

theorem scanFileHeader?_of_head?_ne {line : Text} (h : line.head? ≠ some 'd') :
    scanFileHeader? line = none := by
  cases hl : scanFileHeader? line with
  | none => rfl
  | some path =>
    obtain ⟨-, c, rest, -, rfl⟩ := scanFileHeader?_eq_some_iff.1 hl
    exact absurd (by simp) h

theorem scanHunkHeader?_of_head?_ne {line : Text} (h : line.head? ≠ some '@') :
    scanHunkHeader? line = none := by
  cases hl : scanHunkHeader? line with
  | none => rfl
  | some p =>
    obtain ⟨-, -, rest, rfl⟩ := scanHunkHeader?_eq_some_iff.1 hl
    exact absurd (by simp) h

namespace LineKind

theorem of_eq_fileHeader_iff {line path : Text} :
    of line = .fileHeader path ↔ scanFileHeader? line = some path := by
  unfold of
  split
  next p hp => simp [hp]
  next hp => rw [hp]; split_ifs <;> grind

theorem of_eq_hunkHeader_iff {line : Text} {old new : Span} :
    of line = .hunkHeader old new ↔ scanHunkHeader? line = some (old, new) := by
  constructor
  · intro h
    unfold of at h
    grind
  · intro h
    obtain ⟨-, -, rest, hl⟩ := scanHunkHeader?_eq_some_iff.1 h
    have hf : scanFileHeader? line = none := scanFileHeader?_of_head?_ne (by simp [hl])
    have ha : isAbout line = false := by simp [hl, isAbout, startsWith, rest?]
    unfold of
    rw [hf, ha, h]
    rfl

theorem of_blank (t : Text) : of (' ' :: t) = .context := by
  unfold of
  rw [scanFileHeader?_of_head?_ne (by simp), scanHunkHeader?_of_head?_ne (by simp)]
  rfl

theorem of_plus (t : Text) :
    of ('+' :: t) = if startsWith "++" t then .about else .added t := by
  have ha : isAbout ('+' :: t) = startsWith "++" t := rfl
  rw [of, scanFileHeader?_of_head?_ne (by simp), scanHunkHeader?_of_head?_ne (by simp), ha]

theorem of_minus (t : Text) :
    of ('-' :: t) = if startsWith "--" t then .about else .removed t := by
  have ha : isAbout ('-' :: t) = startsWith "--" t := by simp [isAbout, startsWith, rest?]
  rw [of, scanFileHeader?_of_head?_ne (by simp), scanHunkHeader?_of_head?_ne (by simp), ha]

end LineKind

end ChangeFeed.Diff
