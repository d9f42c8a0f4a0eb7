import ChangeFeed.Proofs.Diff.Invariant

/-!
# Lines that a reader refuses

Of all lines, a session refuses only the header of a hunk in which a number has too many digits
(`IsOversized`), and that only in the section of a file: elsewhere no header of a hunk is looked at.
The failure tells how many digits the first such number has (`Session.feed_eq_error_iff`). A reader
follows a session, so it refuses the same lines, and it goes on as if a line that it has refused had
not come (`Operation.feed_refused_iff`).
-/

namespace ChangeFeed

namespace Diff
open Text

/-- Whether a run of digits is longer than a number may be. -/
def isTooLong (ds : Text) : Bool := decide (Numeral.maxDigits < ds.length)

namespace Span

/-- The numbers of a side, as digits. -/
def numbers (s : Span) : List Text := s.start :: s.count.toList

end Span

/-- The line starts with the header of a hunk that has the given sides. -/
def IsHunkHeader (line : Text) (old new : Span) : Prop :=
  old.IsNumeric ∧ new.IsNumeric ∧ ∃ rest,
    line = "@@ -" ++ old.render ++ " +" ++ new.render ++ " @@" ++ rest

/-- The line starts with the header of a hunk in which a number is too long. -/
def IsOversized (line : Text) : Prop :=
  ∃ old new, IsHunkHeader line old new ∧
    ∃ ds ∈ old.numbers ++ new.numbers, Numeral.maxDigits < ds.length

variable {s s' : Session} {line : Text} {p : Numeral.Problem}

theorem ofDecimals?_of_isTooLong {ds : Text} (h : isTooLong ds = true) :
    Numeral.ofDecimals? ds = .error (.tooLong ds.length) := if_pos (of_decide_eq_true h)

theorem exists_ofDecimals?_of_isTooLong {ds : Text} (h : isTooLong ds = false) :
    ∃ n, Numeral.ofDecimals? ds = .ok n := ⟨_, if_neg (of_decide_eq_false h)⟩

theorem Span.read_cases (x : Span) :
    (∃ ds, x.numbers.find? isTooLong = some ds ∧ x.read = .error (.tooLong ds.length)) ∨
      x.numbers.find? isTooLong = none ∧ ∃ a, x.read = .ok a := by
  obtain ⟨start, count⟩ := x
  unfold Span.read Span.numbers
  cases hstart : isTooLong start with
  | true =>
    refine .inl ⟨start, List.find?_cons_of_pos hstart, ?_⟩
    rw [ofDecimals?_of_isTooLong hstart]
    rfl
  | false =>
    obtain ⟨n, hn⟩ := exists_ofDecimals?_of_isTooLong hstart
    rw [List.find?_cons_of_neg (by simp [hstart]), hn]
    cases count with
    | none => exact .inr ⟨rfl, _, rfl⟩
    | some ds =>
      cases hcount : isTooLong ds with
      | true =>
        refine .inl ⟨ds, List.find?_cons_of_pos hcount, ?_⟩
        simp only [ofDecimals?_of_isTooLong hcount]
        rfl
      | false =>
        obtain ⟨m, hm⟩ := exists_ofDecimals?_of_isTooLong hcount
        refine .inr ⟨List.find?_cons_of_neg (by simp [hcount]), ?_⟩
        simp only [hm]
        exact ⟨_, rfl⟩

namespace Session

/-- The first of the four numbers that is too long is the one that is told about. -/
theorem enterHunk_cases (s : Session) (path : Value) (old new : Span) :
    (∃ ds, (old.numbers ++ new.numbers).find? isTooLong = some ds ∧
      s.enterHunk path old new = .error (.tooLong ds.length)) ∨
    (old.numbers ++ new.numbers).find? isTooLong = none ∧
      ∃ s', s.enterHunk path old new = .ok s' := by
  rw [List.find?_append]
  unfold enterHunk
  rcases old.read_cases with ⟨ds, hfind, hread⟩ | ⟨hfind, ⟨oldStart, oldCount⟩, hread⟩
  · rw [hfind, hread]
    exact .inl ⟨ds, rfl, rfl⟩
  · rw [hfind, hread]
    rcases new.read_cases with ⟨ds, hfind, hread⟩ | ⟨hfind, ⟨newStart, newCount⟩, hread⟩
    · rw [hfind, hread]
      exact .inl ⟨ds, rfl, rfl⟩
    · rw [hfind, hread]
      exact .inr ⟨rfl, _, rfl⟩

/-- A line is refused in the section of a file if it is the header of a hunk with a number that is
too long. -/
theorem feed_eq_error_iff : s.feed line = .error p ↔
    s.place.file?.isSome ∧ ∃ old new ds, IsHunkHeader (dropReturn line) old new ∧
      (old.numbers ++ new.numbers).find? isTooLong = some ds ∧ p = .tooLong ds.length := by
  constructor
  · intro h
    rw [feed] at h
    cases hk : LineKind.of (dropReturn line) with
    | hunkHeader old new =>
      rw [hk, step] at h
      cases hfile : s.place.file? with
      | none =>
        rw [hfile] at h
        cases h
      | some path =>
        rw [hfile] at h
        replace h : s.enterHunk path old new = .error p := h
        have hheader : IsHunkHeader (dropReturn line) old new :=
          scanHunkHeader?_eq_some_iff.1 (LineKind.of_eq_hunkHeader_iff.1 hk)
        rcases enterHunk_cases s path old new with ⟨ds, hfind, herror⟩ | ⟨-, s', hok⟩
        · rw [herror] at h
          exact ⟨rfl, old, new, ds, hheader, hfind, (Except.error.inj h).symm⟩
        · rw [hok] at h
          cases h
    | _ =>
      rw [hk] at h
      cases h
  · rintro ⟨hfile, old, new, ds, hheader, hfind, rfl⟩
    obtain ⟨path, hpath⟩ := Option.isSome_iff_exists.1 hfile
    rw [feed_hunkHeader (scanHunkHeader?_eq_some_iff.2 hheader) hpath]
    rcases enterHunk_cases s path old new with ⟨es, hes, herror⟩ | ⟨hnone, -⟩
    · rw [hfind] at hes
      obtain rfl := Option.some.inj hes
      exact herror
    · rw [hfind] at hnone
      cases hnone

theorem exists_feed_eq_error_iff :
    (∃ p, s.feed line = .error p) ↔ s.place.file?.isSome ∧ IsOversized (dropReturn line) := by
  constructor
  · rintro ⟨p, h⟩
    obtain ⟨hfile, old, new, ds, hheader, hfind, -⟩ := feed_eq_error_iff.1 h
    have hlong : isTooLong ds = true := List.find?_some hfind
    exact ⟨hfile, old, new, hheader, ds, List.mem_of_find?_eq_some hfind, of_decide_eq_true hlong⟩
  · rintro ⟨hfile, old, new, hheader, ds, hmem, hlong⟩
    have hsome : ((old.numbers ++ new.numbers).find? isTooLong).isSome :=
      List.find?_isSome.2 ⟨ds, hmem, decide_eq_true hlong⟩
    obtain ⟨first, hfirst⟩ := Option.isSome_iff_exists.1 hsome
    exact ⟨_, feed_eq_error_iff.2 ⟨hfile, old, new, first, hheader, hfirst, rfl⟩⟩

end Session

end Diff

namespace Operation
open Diff

theorem onDiff_feed_eq {r : Reader} {s : Session} (h : r.Follows s) (line : Text) :
    (∃ s', s.feed line = .ok s' ∧ (onDiff r "feed" [.text line]).2 = none) ∨
      ∃ p, s.feed line = .error p ∧ onDiff r "feed" [.text line] = (r, some (.numeral p)) := by
  rw [onDiff_feed]
  have hline := h.feed line
  generalize hx : s.feed line = x at hline
  generalize (Reader.feed line).exec r = y at hline
  cases hline with
  | moved _ _ => exact .inl ⟨_, rfl, rfl⟩
  | refused => exact .inr ⟨_, rfl, rfl⟩

/-- A reader is given a line. -/
def lineCall (line : Text) : Text × List Value := ("feed", [.text line])

theorem sessionAfter_append (calls more : List (Text × List Value)) :
    sessionAfter (calls ++ more) =
      more.foldl (fun r call => (onDiff r call.1 call.2).1) (sessionAfter calls) :=
  List.foldl_append

/-- In every state of a reader a line is refused exactly if it is the header of a hunk with too
long a number in the section of a file. A line that is refused has a wrong value, it changes
nothing, and what is done afterwards comes to the same as without it. -/
theorem feed_refused_iff (calls : List (Text × List Value)) (line : Text) :
    ((∃ f, (onDiff (sessionAfter calls) "feed" [.text line]).2 = some f) ↔
      (sessionAfter calls).filename.isSome ∧ IsOversized (Text.dropReturn line)) ∧
    ∀ f, (onDiff (sessionAfter calls) "feed" [.text line]).2 = some f →
      f.kind = "ValueError" ∧
      (onDiff (sessionAfter calls) "feed" [.text line]).1 = sessionAfter calls ∧
      ∀ more, sessionAfter (calls ++ lineCall line :: more) = sessionAfter (calls ++ more) := by
  obtain ⟨s, h, -⟩ := exists_follows calls
  rw [h.isSome_filename, ← Session.exists_feed_eq_error_iff]
  rcases onDiff_feed_eq h line with ⟨s', hfeed, hnone⟩ | ⟨p, hfeed, hrefused⟩
  · rw [hfeed, hnone]
    exact ⟨⟨nofun, nofun⟩, nofun⟩
  · rw [hfeed, hrefused]
    refine ⟨⟨fun _ => ⟨p, rfl⟩, fun _ => ⟨_, rfl⟩⟩, ?_⟩
    rintro f ⟨⟩
    obtain ⟨-, old, new, ds, -, -, rfl⟩ := Session.feed_eq_error_iff.1 hfeed
    refine ⟨rfl, rfl, fun more => ?_⟩
    have hstay : (onDiff (sessionAfter calls) (lineCall line).1 (lineCall line).2).1 =
        sessionAfter calls := congrArg Prod.fst hrefused
    rw [sessionAfter_append, sessionAfter_append, List.foldl_cons, hstay]

/-- The header of a hunk whose first number has so many digits. -/
def longHeader (digits : Nat) : Text := "@@ -" ++ Text.fill digits '7' ++ " +1 @@"

theorem isOversized_longHeader {n : Nat} (h : Numeral.maxDigits < n) :
    IsOversized (Text.dropReturn (longHeader n)) := by
  have hlast : (longHeader n).getLast? = some '@' := by
    rw [longHeader, List.getLast?_append]
    rfl
  have hend : Text.dropReturn (longHeader n) = longHeader n :=
    Text.dropReturn_of_getLast? (by rw [hlast]; decide)
  have hlength : (Text.fill n '7').length = n := List.length_replicate
  have hdigits : IsDigits (Text.fill n '7') := by
    refine ⟨List.ne_nil_of_length_pos (by omega), fun c hc => ?_⟩
    rw [List.eq_of_mem_replicate hc]
    decide
  rw [hend]
  refine ⟨⟨Text.fill n '7', none⟩, ⟨"1", none⟩, ⟨⟨hdigits, by simp⟩, ?_, [], ?_⟩, ?_⟩
  · exact ⟨isDigits_ofNat 1, by simp⟩
  · simp [longHeader, Span.render]
  · exact ⟨Text.fill n '7', by simp [Span.numbers], hlength.symm ▸ h⟩

theorem feed_refused_longHeader :
    let calls : List (Text × List Value) :=
      [("parse", [.text "diff --git a/x b/x\n@@ -4 +4 @@\n-a"])]
    let header := longHeader 4301
    (sessionAfter calls).filename = some "x" ∧ IsOversized (Text.dropReturn header) ∧
      (∃ f, (onDiff (sessionAfter calls) "feed" [.text header]).2 = some f ∧
        f.kind = "ValueError") ∧
      (sessionAfter (calls ++ [lineCall header, lineCall "+b"])).hunks =
        [⟨.text "x", 4, 4, 4, 4, [⟨4, "a"⟩], [⟨4, "b"⟩]⟩] := by
  intro calls header
  have hfile : (sessionAfter calls).filename = some "x" := by decide +kernel
  have hlong : IsOversized (Text.dropReturn header) := isOversized_longHeader (by decide)
  have hstate : (sessionAfter calls).filename.isSome := by rw [hfile]; rfl
  obtain ⟨hiff, hrefused⟩ := feed_refused_iff calls header
  obtain ⟨f, hf⟩ := hiff.2 ⟨hstate, hlong⟩
  obtain ⟨hkind, -, hmore⟩ := hrefused f hf
  refine ⟨hfile, hlong, ⟨f, hf, hkind⟩, ?_⟩
  rw [hmore]
  decide +kernel

end Operation

end ChangeFeed
