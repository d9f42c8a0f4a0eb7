import ChangeFeed.Proofs.Diff.Session
import ChangeFeed.Proofs.Diff.Header
import ChangeFeed.Proofs.Outcome

/-!
# How a session reads lines

`step_cases` is all that one line can do to a session: a file header closes the hunk that is open, a
hunk header opens one, and any other line leaves the files and the spans of all hunks as they are
(`feed_cases`, about `Session.outlines`). `Reads` says that a session gets through some lines
without a problem, and `reads_flatMap` puts together what parts of a diff add to the hunks. What is
true of every hunk of every text is `Hunk.IsRead` (`isRead_of_parse`).
-/

namespace ChangeFeed

/-- A hunk without its lines: the file and the two spans. -/
def Hunk.outline (h : Hunk) : Hunk := { h with oldLines := [], newLines := [] }

/-- What every hunk of a diff is like: its path is plain, and a span without lines ends one line
before it starts. -/
structure Hunk.IsRead (h : Hunk) : Prop where
  filename : ∃ path, h.filename = .text path ∧ Diff.IsPlainPath path
  old : h.oldStart - 1 ≤ h.oldEnd
  new : h.newStart - 1 ≤ h.newEnd

namespace Diff

open Text

theorem Span.count_nonneg {s : Span} {start count : Int} (h : s.read = .ok (start, count)) :
    0 ≤ count := by
  obtain ⟨_, -, h⟩ := bind_eq_ok_iff.1 h
  split at h
  · obtain ⟨n, -, h⟩ := bind_eq_ok_iff.1 h
    cases h
    exact Int.natCast_nonneg n
  · cases h
    decide

namespace Session

variable {s s' s₁ s₂ : Session} {line : Text} {lines front back : List Text}

/-- The files and spans of all hunks read so far. -/
def outlines (s : Session) : List Hunk := s.hunks.map Hunk.outline

@[simp]
theorem hunks_enterFile (path : Text) : (s.enterFile path).hunks = s.hunks := by
  simp [enterFile, hunks, Place.hunk?]

/-! ### Reading many lines -/

/-- Reading the lines takes a session from `s` to `s'`. -/
def Reads (s : Session) (lines : List Text) (s' : Session) : Prop := s.feedAll lines = (s', none)

theorem Reads.nil : s.Reads [] s := rfl

theorem Reads.cons (h : s.feed line = .ok s₁) (hr : s₁.Reads lines s₂) :
    s.Reads (line :: lines) s₂ := by
  unfold Reads
  rw [feedAll, h]
  exact hr

theorem Reads.append (h₁ : s.Reads front s₁) (h₂ : s₁.Reads back s₂) :
    s.Reads (front ++ back) s₂ := by
  unfold Reads at *
  rw [feedAll_append, h₁]
  exact h₂

theorem Reads.singleton (h : s.feed line = .ok s') : s.Reads [line] s' := .cons h .nil

theorem parse_of_reads {t : Text} (h : Reads {} (splitLines t) s) : parse t = .ok s.hunks := by
  unfold Reads at h
  rw [parse_eq_read, read, h]

theorem feedAll_induction {P : Session → Prop}
    (h : ∀ s line s', P s → s.feed line = .ok s' → P s') (hs : P s) (lines : List Text) :
    P (s.feedAll lines).1 := by
  induction lines generalizing s with
  | nil => exact hs
  | cons line lines ih =>
    rw [feedAll]
    cases hf : s.feed line with
    | ok s' => exact ih (h s line s' hs hf)
    | error p => exact hs

theorem reads_of_feed (h : ∀ line ∈ lines, ∀ s : Session, ∃ s', s.feed line = .ok s') :
    ∃ s', s.Reads lines s' := by
  induction lines generalizing s with
  | nil => exact ⟨s, .nil⟩
  | cons line lines ih =>
    obtain ⟨s₁, h₁⟩ := h line (by simp) s
    obtain ⟨s₂, h₂⟩ := ih (s := s₁) fun l hl => h l (by simp [hl])
    exact ⟨s₂, .cons h₁ h₂⟩

/-- Where each part of a diff adds its hunks, all parts add all of them. The hunks are looked at
through `v`. -/
theorem reads_flatMap {α β : Type} {P : Session → Prop} (v : Hunk → β) {text : α → List Text}
    (hunks : α → List Hunk) {parts : List α}
    (h : ∀ a ∈ parts, ∀ s, P s →
      ∃ s', s.Reads (text a) s' ∧ P s' ∧ s'.hunks.map v = s.hunks.map v ++ (hunks a).map v)
    (hs : P s) : ∃ s', s.Reads (parts.flatMap text) s' ∧ P s' ∧
      s'.hunks.map v = s.hunks.map v ++ (parts.flatMap hunks).map v := by
  induction parts generalizing s with
  | nil => exact ⟨s, .nil, hs, by simp⟩
  | cons a parts ih =>
    obtain ⟨s₁, hr₁, hs₁, h₁⟩ := h a (by simp) s hs
    obtain ⟨s₂, hr₂, hs₂, h₂⟩ := ih (fun b hb => h b (by simp [hb])) hs₁
    exact ⟨s₂, hr₁.append hr₂, hs₂, by simp [h₂, h₁]⟩

/-! ### Reading one line -/

theorem feed_fileHeader {path : Text} (h : scanFileHeader? (dropReturn line) = some path) :
    s.feed line = .ok (s.enterFile path) := by
  rw [feed, LineKind.of_eq_fileHeader_iff.2 h]
  rfl

theorem feed_hunkHeader {old new : Span} {path : Value}
    (h : scanHunkHeader? (dropReturn line) = some (old, new)) (hp : s.place.file? = some path) :
    s.feed line = s.enterHunk path old new := by
  rw [feed, LineKind.of_eq_hunkHeader_iff.2 h, step, hp]

theorem feed_of_preamble (hp : s.place = .preamble) (h : scanFileHeader? line = none) :
    s.feed line = .ok s := by
  obtain ⟨complete, place⟩ := s
  subst hp
  rw [feed]
  cases hk : LineKind.of (dropReturn line) with
  | fileHeader path =>
    rw [LineKind.of_eq_fileHeader_iff, scanFileHeader?_dropReturn h] at hk
    cases hk
  | _ => rfl

theorem enterHunk_eq_ok_iff {path : Value} {old new : Span} :
    s.enterHunk path old new = .ok s' ↔ ∃ oldStart oldCount newStart newCount,
      old.read = .ok (oldStart, oldCount) ∧ new.read = .ok (newStart, newCount) ∧
      s' = ⟨s.hunks, .hunk ⟨path, oldStart, oldStart + oldCount - 1, newStart,
        newStart + newCount - 1, [], []⟩ oldStart (newStart + newCount - 1)⟩ := by
  unfold enterHunk
  simp only [bind_eq_ok_iff, Prod.exists, pure, Except.pure, Except.ok.injEq]
  constructor
  · rintro ⟨a, b, ho, c, d, hn, rfl⟩
    exact ⟨a, b, c, d, ho, hn, rfl⟩
  · rintro ⟨a, b, c, d, ho, hn, rfl⟩
    exact ⟨a, b, ho, c, d, hn, rfl⟩

theorem content_frame (s : Session) (k : LineKind) :
    outlines ⟨s.complete, content k s.place⟩ = s.outlines ∧
      (content k s.place).file? = s.place.file? := by
  obtain ⟨complete, place⟩ := s
  cases place with
  | hunk h old new =>
    cases k <;> simp [outlines, hunks, content, Place.hunk?, Place.file?, Hunk.outline]
  | _ => exact ⟨rfl, rfl⟩

/-- All that a line of a kind can do: enter a file, open a hunk, be passed over, or move the place
on. -/
theorem step_cases {k : LineKind} (h : s.step k = .ok s') :
    (∃ path, k = .fileHeader path ∧ s' = s.enterFile path) ∨
    (∃ old new path, k = .hunkHeader old new ∧ s.place.file? = some path ∧
      s.enterHunk path old new = .ok s') ∨
    s' = s ∨ s' = ⟨s.complete, content k s.place⟩ := by
  cases k with
  | fileHeader path => cases h; exact .inl ⟨path, rfl, rfl⟩
  | about => cases h; exact .inr (.inr (.inl rfl))
  | hunkHeader old new =>
    rw [step] at h
    cases hp : s.place.file? with
    | none => rw [hp] at h; cases h; exact .inr (.inr (.inl rfl))
    | some path => rw [hp] at h; exact .inr (.inl ⟨old, new, path, rfl, rfl, h⟩)
  | added t | removed t | context => cases h; exact .inr (.inr (.inr rfl))

theorem feed_cases (h : s.feed line = .ok s') :
    (∃ path, scanFileHeader? (dropReturn line) = some path ∧ s' = s.enterFile path) ∨
    (∃ old new path, scanHunkHeader? (dropReturn line) = some (old, new) ∧
      s.place.file? = some path ∧ s.enterHunk path old new = .ok s') ∨
    (s'.outlines = s.outlines ∧ s'.place.file? = s.place.file?) := by
  rcases step_cases h with ⟨path, hk, hs⟩ | ⟨old, new, path, hk, hp, he⟩ | rfl | rfl
  · exact .inl ⟨path, LineKind.of_eq_fileHeader_iff.1 hk, hs⟩
  · exact .inr (.inl ⟨old, new, path, LineKind.of_eq_hunkHeader_iff.1 hk, hp, he⟩)
  · exact .inr (.inr ⟨rfl, rfl⟩)
  · exact .inr (.inr (content_frame s _))

/-- A line is read unless it is the header of a hunk with numbers that cannot be read. -/
theorem feed_isOk (h : ∀ old new, scanHunkHeader? (dropReturn line) = some (old, new) →
    (∃ a, old.read = .ok a) ∧ ∃ b, new.read = .ok b) : ∃ s', s.feed line = .ok s' := by
  rw [feed]
  cases hk : LineKind.of (dropReturn line) with
  | hunkHeader old new =>
    obtain ⟨⟨a, ha⟩, b, hb⟩ := h old new (LineKind.of_eq_hunkHeader_iff.1 hk)
    rw [step]
    cases s.place.file? with
    | none => exact ⟨s, rfl⟩
    | some path => exact ⟨_, enterHunk_eq_ok_iff.2 ⟨_, _, _, _, ha, hb, rfl⟩⟩
  | _ => exact ⟨_, rfl⟩

theorem outlines_enterFile (path : Text) : (s.enterFile path).outlines = s.outlines := by
  rw [outlines, hunks_enterFile, outlines]

theorem reads_of_not_hunkHeader (h : ∀ line ∈ lines, scanHunkHeader? line = none) :
    ∃ s', s.Reads lines s' ∧ s'.outlines = s.outlines := by
  induction lines generalizing s with
  | nil => exact ⟨s, .nil, rfl⟩
  | cons line lines ih =>
    have hl := scanHunkHeader?_dropReturn (h line (by simp))
    have hok : ∃ s₁, s.feed line = .ok s₁ := feed_isOk fun _ _ hs => by rw [hl] at hs; cases hs
    obtain ⟨s₁, h₁⟩ := hok
    obtain ⟨s₂, h₂, ho⟩ := ih (s := s₁) fun l hl => h l (by simp [hl])
    refine ⟨s₂, .cons h₁ h₂, ho.trans ?_⟩
    rcases feed_cases h₁ with ⟨path, -, rfl⟩ | ⟨old, new, path, hs, -⟩ | ⟨hs, -⟩
    · exact outlines_enterFile path
    · rw [hl] at hs; cases hs
    · exact hs

/-! ### What every hunk is like -/

/-- Every file that a session knows has a plain path, and no span of a hunk ends more than one line
before its start. -/
structure Sound (s : Session) : Prop where
  place : ∀ file ∈ s.place.file?, ∃ path, file = .text path ∧ IsPlainPath path
  outlines : ∀ h ∈ s.outlines, h.IsRead

theorem Sound.empty : Sound {} := ⟨by rintro _ ⟨⟩, by rintro _ ⟨⟩⟩

theorem outlines_mk (complete : List Hunk) (p : Place) :
    outlines ⟨complete, p⟩ = complete.map Hunk.outline ++ (p.hunk?.map Hunk.outline).toList := by
  cases h : p.hunk? <;> simp [outlines, hunks, h]

theorem feed_sound (hs : s.Sound) (h : s.feed line = .ok s') : s'.Sound := by
  rcases feed_cases h with ⟨path, hp, rfl⟩ | ⟨old, new, path, -, hp, he⟩ | ⟨ho, hp⟩
  · refine ⟨?_, by rw [outlines_enterFile]; exact hs.outlines⟩
    rintro file ⟨⟩
    exact ⟨path, rfl, isPlainPath_of_scanFileHeader? hp⟩
  · obtain ⟨_, _, _, _, ho, hn, rfl⟩ := enterHunk_eq_ok_iff.1 he
    refine ⟨by rintro file ⟨⟩; exact hs.place path hp, fun h hh => ?_⟩
    rw [outlines_mk, List.mem_append] at hh
    rcases hh with hh | hh
    · exact hs.outlines h hh
    · simp only [Place.hunk?, Option.map_some, Option.toList_some, List.mem_singleton] at hh
      subst hh
      have ho := Span.count_nonneg ho
      have hn := Span.count_nonneg hn
      exact ⟨hs.place path hp, by simp only [Hunk.outline]; omega,
        by simp only [Hunk.outline]; omega⟩
  · exact ⟨by rw [hp]; exact hs.place, by rw [ho]; exact hs.outlines⟩

end Session

/-- Hunks are read under plain paths only and with no span that ends before the line in front of its
start, whatever the text is. -/
theorem isRead_of_parse {t : Text} {hs : List Hunk} (ht : parse t = .ok hs) :
    ∀ h ∈ hs, h.IsRead := by
  have hp : (Session.read t).1.Sound :=
    Session.feedAll_induction (fun _ _ _ => Session.feed_sound) .empty (splitLines t)
  intro h hh
  rw [parse_eq_read] at ht
  split at ht
  next s hs' =>
    cases ht
    rw [hs'] at hp
    obtain ⟨hf, ho, hn⟩ := hp.outlines h.outline (List.mem_map_of_mem hh)
    exact ⟨hf, ho, hn⟩
  · cases ht

end Diff

/-! ### Touched files -/

namespace Hunk

/-- The path of a hunk that has been read. -/
def path (h : Hunk) : Text :=
  match h.filename with
  | .text path => path
  | _ => []

theorem eraseDupsBy_map {α β : Type} (f : α → β) (r : β → β → Bool) (xs : List α) :
    (xs.map f).eraseDupsBy r = (xs.eraseDupsBy fun a b => r (f a) (f b)).map f := by
  induction hn : xs.length using Nat.strong_induction_on generalizing xs with
  | h n ih =>
    cases xs with
    | nil => rfl
    | cons x xs =>
      have hlt : (xs.filter fun b => decide (r (f b) (f x) = false)).length < n := by
        rw [← hn, List.length_cons]
        exact Nat.lt_succ_of_le (List.length_filter_le _ xs)
      rw [List.map_cons, List.eraseDupsBy_cons, List.eraseDupsBy_cons, List.map_cons,
        List.filter_map, ← ih _ hlt _ rfl]
      rfl

theorem files_of_isRead {hs : List Hunk} (h : ∀ x ∈ hs, x.IsRead) :
    files hs = (hs.map path).eraseDups.map .text := by
  have hpath : ∀ x ∈ hs, x.filename = .text x.path := by
    intro x hx
    obtain ⟨path, hp, -⟩ := (h x hx).filename
    rw [Hunk.path, hp]
  have hmap : hs.map filename = (hs.map path).map .text := by
    rw [List.map_map]
    exact List.map_congr_left hpath
  unfold files
  rw [hmap, eraseDupsBy_map]
  simp only [Value.sameKey_text]
  rfl

end Hunk

end ChangeFeed
