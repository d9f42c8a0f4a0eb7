import ChangeFeed.Operation
import ChangeFeed.Proofs.Diff.Reading

/-!
# What holds of a reader whatever is done with it

A reader can be reset, given a line or a whole text, and asked for anything else, and each of these
may be refused halfway (`Operation.onDiff`). In every state that is reached so
(`Operation.sessionAfter`) the reader is `Reader.Valid`: the two numbers that are next are known
exactly when a hunk is open, that hunk is the last one, and the lines of all hunks are numbered
upwards. A line that is read only appends to the hunks or to the one that is open
(`Reader.Extends`).

The fields of a reader agree because it follows a session, and `Session.Numbered` is what each step
of a session keeps. The open hunk has had as many lines of both versions on its old as on its new
side (`Hunk.IsAt`), so the numbers that are next grow in step with the lines.
-/

namespace ChangeFeed

/-- The lines are numbered upwards, from `first` on. -/
def Line.Ascending (first : Int) (ls : List Line) : Prop :=
  ls.Pairwise (fun a b => a.num < b.num) ∧ ∀ l ∈ ls, first ≤ l.num

theorem Line.Ascending.append {first n : Int} {ls : List Line} (h : Line.Ascending first ls)
    (hn : ∀ l ∈ ls, l.num < n) (hf : first ≤ n) (t : Text) :
    Line.Ascending first (ls ++ [⟨n, t⟩]) := by
  constructor
  · exact List.pairwise_append.2 ⟨h.1, List.pairwise_singleton _ _, by simpa using hn⟩
  · intro l hl
    rcases List.mem_append.1 hl with hl | hl
    · exact h.2 l hl
    · rw [List.mem_singleton.1 hl]
      exact hf

theorem Line.lt_succ_of_append {n : Int} {ls : List Line} (hn : ∀ l ∈ ls, l.num < n) (t : Text) :
    ∀ l ∈ ls ++ [⟨n, t⟩], l.num < n + 1 := by
  intro l hl
  rcases List.mem_append.1 hl with hl | hl
  · exact Int.lt_trans (hn l hl) (Int.lt_succ n)
  · rw [List.mem_singleton.1 hl]
    exact Int.lt_succ n

namespace Hunk

/-- The removed lines are numbered upwards from the start of the old span on, the added ones from
the end of the new span on. -/
structure Numbered (h : Hunk) : Prop where
  old : Line.Ascending h.oldStart h.oldLines
  new : Line.Ascending h.newEnd h.newLines

/-- The numbers of the next removed and the next added line: they lie behind those of the lines that
are there, and the lines of both versions count on both sides. -/
structure IsAt (h : Hunk) (oldNext newNext : Int) : Prop where
  old : ∀ l ∈ h.oldLines, l.num < oldNext
  new : ∀ l ∈ h.newLines, l.num < newNext
  kept : oldNext - h.oldStart - h.oldLines.length = newNext - h.newEnd - h.newLines.length
  nonneg : 0 ≤ oldNext - h.oldStart - h.oldLines.length

variable {h : Hunk} {oldNext newNext : Int}

theorem IsAt.keep (ha : h.IsAt oldNext newNext) : h.IsAt (oldNext + 1) (newNext + 1) := by
  obtain ⟨ho, hn, hk, hp⟩ := ha
  exact ⟨fun l hl => Int.lt_trans (ho l hl) (Int.lt_succ _),
    fun l hl => Int.lt_trans (hn l hl) (Int.lt_succ _), by omega, by omega⟩

theorem IsAt.add (ha : h.IsAt oldNext newNext) (t : Text) :
    IsAt { h with newLines := h.newLines ++ [⟨newNext, t⟩] } oldNext (newNext + 1) := by
  obtain ⟨ho, hn, hk, hp⟩ := ha
  refine ⟨ho, Line.lt_succ_of_append hn t, ?_, hp⟩
  simp only [List.length_append, List.length_singleton]
  omega

theorem IsAt.remove (ha : h.IsAt oldNext newNext) (t : Text) :
    IsAt { h with oldLines := h.oldLines ++ [⟨oldNext, t⟩] } (oldNext + 1) newNext := by
  obtain ⟨ho, hn, hk, hp⟩ := ha
  refine ⟨Line.lt_succ_of_append ho t, hn, ?_, ?_⟩ <;>
    simp only [List.length_append, List.length_singleton] <;> omega

theorem Numbered.add (hh : h.Numbered) (ha : h.IsAt oldNext newNext) (t : Text) :
    Numbered { h with newLines := h.newLines ++ [⟨newNext, t⟩] } := by
  have hle : h.newEnd ≤ newNext := by
    have := ha.kept
    have := ha.nonneg
    omega
  exact ⟨hh.old, hh.new.append ha.new hle t⟩

theorem Numbered.remove (hh : h.Numbered) (ha : h.IsAt oldNext newNext) (t : Text) :
    Numbered { h with oldLines := h.oldLines ++ [⟨oldNext, t⟩] } := by
  have hle : h.oldStart ≤ oldNext := by
    have := ha.nonneg
    omega
  exact ⟨hh.old.append ha.old hle t, hh.new⟩

end Hunk

namespace Diff.Session
open Text

variable {s s' : Session} {line : Text}

/-! ### The invariant -/

/-- The lines of all hunks are numbered, with the open hunk at the numbers that are next, and in
front of the first file there are no hunks. -/
structure Numbered (s : Session) : Prop where
  complete : ∀ h ∈ s.complete, h.Numbered
  preamble : s.place = .preamble → s.complete = []
  hunk : ∀ h old new, s.place = .hunk h old new → h.Numbered ∧ h.IsAt old new

theorem Numbered.empty : Numbered {} := ⟨by simp, fun _ => rfl, by rintro _ _ _ ⟨⟩⟩

theorem Numbered.hunks (hs : s.Numbered) : ∀ h ∈ s.hunks, h.Numbered := by
  obtain ⟨complete, place⟩ := s
  intro h hh
  rcases List.mem_append.1 hh with hh | hh
  · exact hs.complete h hh
  · cases place with
    | hunk h' old new =>
      rw [List.mem_singleton.1 hh]
      exact (hs.hunk h' old new rfl).1
    | _ => cases hh

theorem Numbered.enterFile (hs : s.Numbered) (path : Text) : (s.enterFile path).Numbered :=
  ⟨hs.hunks, by rintro ⟨⟩, by rintro _ _ _ ⟨⟩⟩

theorem Numbered.enterHunk (hs : s.Numbered) {path : Value} {old new : Span}
    (h : s.enterHunk path old new = .ok s') : s'.Numbered := by
  obtain ⟨_, _, _, _, -, -, rfl⟩ := enterHunk_eq_ok_iff.1 h
  refine ⟨hs.hunks, by rintro ⟨⟩, ?_⟩
  rintro _ _ _ ⟨⟩
  exact ⟨⟨⟨.nil, by simp⟩, ⟨.nil, by simp⟩⟩, ⟨by simp, by simp, by simp, by simp⟩⟩

theorem Numbered.content (hs : s.Numbered) (k : LineKind) :
    Numbered ⟨s.complete, content k s.place⟩ := by
  obtain ⟨complete, place⟩ := s
  cases place with
  | hunk h old new =>
    obtain ⟨hh, ha⟩ := hs.hunk h old new rfl
    refine ⟨hs.complete, by cases k <;> rintro ⟨⟩, fun h' old' new' he => ?_⟩
    cases k with
    | added t => cases he; exact ⟨hh.add ha t, ha.add t⟩
    | removed t => cases he; exact ⟨hh.remove ha t, ha.remove t⟩
    | _ => cases he; exact ⟨hh, ha.keep⟩
  | _ => exact hs

theorem Numbered.feed (hs : s.Numbered) (h : s.feed line = .ok s') : s'.Numbered := by
  rcases step_cases h with ⟨path, -, rfl⟩ | ⟨old, new, path, -, -, he⟩ | rfl | rfl
  · exact hs.enterFile path
  · exact hs.enterHunk he
  · exact hs
  · exact hs.content _

end Diff.Session

/-! ### What is seen of it -/

namespace Diff.Reader

/-- What can be said of a reader from outside. -/
structure Valid (r : Reader) : Prop where
  /-- The numbers that are next are known exactly when a hunk is open. -/
  known : r.oldNext.isSome = r.current.isSome ∧ r.newNext.isSome = r.current.isSome
  /-- In front of the first file nothing is known, and no hunk was found. -/
  outside : r.filename = none →
    r.oldNext = none ∧ r.newNext = none ∧ r.current = none ∧ r.found = []
  /-- The open hunk is the last one, and it belongs to the file that the reader is in. -/
  current : ∀ i ∈ r.current, r.found.getLast? = some i ∧
    ∃ d, r.made[i]? = some d ∧ d.filename = r.filename
  next : ∀ h ∈ r.hunk?, ∀ old ∈ r.oldNext, ∀ new ∈ r.newNext, h.IsAt old new
  /-- The hunks that were found are there, each at a place of its own, and all of their lines have
  numbers. -/
  found : r.found.Nodup ∧ ∀ i ∈ r.found, ∃ d, r.made[i]? = some d ∧ d.IsNumbered
  spans : ∀ h ∈ r.hunks, h.oldStart - 1 ≤ h.oldEnd ∧ h.newStart - 1 ≤ h.newEnd
  numbered : ∀ h ∈ r.hunks, h.Numbered

variable {r : Reader} {s : Session}

namespace Follows

theorem isSome_filename (h : r.Follows s) : r.filename.isSome = s.place.file?.isSome := by
  rw [← h.file, Option.isSome_map]

theorem filename_eq_of_map_text {d : Draft}
    (h : r.filename.map Value.text = some d.hunk.filename) : d.filename = r.filename := by
  change r.filename.map Value.text = some (d.filename.elim .null .text) at h
  cases hr : r.filename with
  | none =>
    rw [hr] at h
    cases h
  | some path =>
    rw [hr] at h
    cases hd : d.filename with
    | none =>
      rw [hd] at h
      cases h
    | some path' =>
      rw [hd] at h
      exact (congrArg some (Value.text.inj (Option.some.inj h))).symm

theorem current_eq_none (h : r.Follows s) (hs : s.place.hunk? = none) : r.current = none := by
  rw [h.current, hs]
  rfl

/-- What follows a session that is numbered is valid. -/
theorem valid (h : r.Follows s) (hs : s.Numbered) (hp : s.Sound) : r.Valid where
  known := by
    rw [h.oldNext, h.newNext]
    obtain ⟨complete, place⟩ := s
    cases place with
    | hunk x old new =>
      obtain ⟨front, i, d, -, hi, -⟩ := h.exists_current
      rw [hi]
      exact ⟨rfl, rfl⟩
    | _ =>
      rw [h.current_eq_none rfl]
      exact ⟨rfl, rfl⟩
  outside hnone := by
    have hfile := h.file
    rw [hnone] at hfile
    obtain ⟨complete, place⟩ := s
    cases place with
    | preamble =>
      obtain rfl : complete = [] := hs.preamble rfl
      exact ⟨h.oldNext, h.newNext, h.current_eq_none rfl, List.map_eq_nil_iff.1 h.found⟩
    | _ => cases hfile
  current i hi := by
    obtain ⟨complete, place⟩ := s
    cases place with
    | hunk x old new =>
      obtain ⟨front, j, d, hfound, hj, hd, rfl, -⟩ := h.exists_current
      obtain rfl : j = i := Option.some.inj (hj.symm.trans hi)
      exact ⟨hfound ▸ List.getLast?_concat .., d, hd, filename_eq_of_map_text h.file⟩
    | _ =>
      rw [h.current_eq_none rfl] at hi
      cases hi
  next x hx old ho new hn := by
    rw [h.oldNext] at ho
    rw [h.newNext] at hn
    obtain ⟨complete, place⟩ := s
    cases place with
    | hunk y _ _ =>
      obtain ⟨front, i, d, -, hi, hd, rfl, -⟩ := h.exists_current
      obtain rfl : d.hunk = x := by
        rw [hunk?, hi, Option.bind_some, hunkAt?, hd] at hx
        exact Option.some.inj hx
      cases ho
      cases hn
      exact (hs.hunk _ _ _ rfl).2
    | _ => cases ho
  found := ⟨h.distinct, fun i hi => by
    obtain ⟨d, hd⟩ := h.exists_made hi
    exact ⟨d, hd, h.isNumbered d (List.mem_of_getElem? hd)⟩⟩
  spans x hx := by
    rw [h.hunks_eq] at hx
    have hr := hp.outlines x.outline (List.mem_map_of_mem hx)
    exact ⟨hr.old, hr.new⟩
  numbered x hx := by
    rw [h.hunks_eq] at hx
    exact hs.hunks x hx

end Follows

end Diff.Reader

/-! ### Whatever is done with a reader -/

namespace Operation
open Diff

/-- A new reader after operations with their arguments, whether they went well or not. -/
def sessionAfter (calls : List (Text × List Value)) : Reader :=
  calls.foldl (fun r call => (onDiff r call.1 call.2).1) {}

variable {P : Reader → Prop}

/-- What a reset and every line keep is kept by every operation, also by one that goes wrong. -/
theorem onDiff_induction (hreset : ∀ r, P r → P { made := r.made })
    (hfeed : ∀ r line, P r → P ((Reader.feed line).exec r).2) {r : Reader} (hr : P r)
    (name : Text) (arguments : List Value) : P (onDiff r name arguments).1 := by
  have hforM (lines : List Text) : ∀ r, P r → P ((lines.forM Reader.feed).exec r).2 := by
    induction lines with
    | nil => exact fun _ => id
    | cons line lines ih =>
      intro r hr
      have hline := hfeed r line hr
      rw [List.forM_eq_forM, List.forM_cons, Attempt.exec_bind]
      generalize (Reader.feed line).exec r = x at hline
      rcases x with ⟨e | u, r'⟩
      · exact hline
      · exact ih r' hline
  have hstate : (onDiff r name arguments).1 = ((ofDiff name arguments).exec r).2 := by
    unfold onDiff
    rcases (ofDiff name arguments).exec r with ⟨e | u, r'⟩ <;> rfl
  rw [hstate, ofDiff, Attempt.exec_bind, Attempt.exec_ofExcept]
  rcases named "UnifiedDiffParser" diffOperations name arguments.length with e | operation
  · exact hr
  simp only [Except.mapError]
  split
  · exact hreset r hr
  · rw [Attempt.exec_bind, Attempt.exec_ofExcept]
    rcases (only arguments).textFor "endswith" with e | line
    · exact hr
    · exact hfeed r line hr
  · rw [Attempt.exec_bind, Reader.parse, Attempt.exec_bind, Reader.reset, Attempt.exec_modify]
    simp only [Attempt.exec_bind, Attempt.exec_ofExcept]
    rcases (only arguments).textFor "split" with e | t
    · exact hreset r hr
    · have hlines := hforM (Text.splitLines t) _ (hreset r hr)
      simp only [Except.mapError]
      generalize ((Text.splitLines t).forM Reader.feed).exec { made := r.made } = x at hlines
      rcases x with ⟨e | u, r'⟩
      · exact hlines
      · exact hlines

/-- A reader follows a session that is numbered, whatever was done with it. -/
theorem exists_follows (calls : List (Text × List Value)) :
    ∃ s : Session, (sessionAfter calls).Follows s ∧ s.Numbered ∧ s.Sound := by
  let P (r : Reader) : Prop := ∃ s, r.Follows s ∧ s.Numbered ∧ s.Sound
  have hreset : ∀ r, P r → P { made := r.made } := by
    rintro r ⟨s, h, -⟩
    exact ⟨{}, h.reset, .empty, .empty⟩
  have hfeed : ∀ r line, P r → P ((Reader.feed line).exec r).2 := by
    rintro r line ⟨s, h, hs, hp⟩
    have hline := h.feed line
    generalize hx : s.feed line = x at hline
    generalize (Reader.feed line).exec r = y at hline ⊢
    cases hline with
    | moved hnext _ => exact ⟨_, hnext, hs.feed hx, Session.feed_sound hp hx⟩
    | refused => exact ⟨s, h, hs, hp⟩
  have hnew : P {} := ⟨{}, .new, .empty, .empty⟩
  exact List.foldlRecOn calls _ hnew fun r hr call _ =>
    onDiff_induction hreset hfeed hr call.1 call.2

theorem named_feed : named "UnifiedDiffParser" diffOperations "feed" 1 = .ok "feed" := rfl

theorem onDiff_feed (r : Reader) (line : Text) : onDiff r "feed" [.text line] =
    match (Reader.feed line).exec r with
    | (.ok _, r') => (r', none)
    | (.error f, r') => (r', some f) := by
  have hexec : (ofDiff "feed" [.text line]).exec r = (Reader.feed line).exec r := by
    rw [ofDiff, List.length_singleton, named_feed, Attempt.exec_bind, Attempt.exec_ofExcept]
    rfl
  exact hexec ▸ rfl

/-- A reader is valid whatever was done with it, and one line more only extends it. -/
theorem valid_sessionAfter (calls : List (Text × List Value)) :
    (sessionAfter calls).Valid ∧ ∀ line, (sessionAfter calls).Extends
      (onDiff (sessionAfter calls) "feed" [.text line]).1 := by
  obtain ⟨s, h, hs, hp⟩ := exists_follows calls
  refine ⟨h.valid hs hp, fun line => ?_⟩
  rw [onDiff_feed]
  have hline := h.feed line
  generalize s.feed line = x at hline
  generalize (Reader.feed line).exec (sessionAfter calls) = y at hline
  cases hline with
  | moved _ he => exact he
  | refused => exact .refl _

/-- A line that is no text is refused, and the reader goes on behind it. -/
example : (sessionAfter [("parse", [.text "diff --git a/x b/x\n@@ -4,2 +4,3 @@\n+a"]),
    ("feed", [.null]), ("feed", [.text " b"])]) = {
      filename := some "x", oldNext := some 5, newNext := some 8, current := some 0, found := [0]
      made := [⟨some "x", 4, 5, 4, 6, [], [(some 6, "a")]⟩] } := by decide +kernel

end Operation

end ChangeFeed
