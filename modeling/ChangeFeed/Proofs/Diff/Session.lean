import ChangeFeed.Diff.Reader
import ChangeFeed.Proofs.Outcome
import Mathlib.Data.List.Forall2
import Mathlib.Data.List.Nodup

/-!
# What a reader of diffs is in

What a reader knows it keeps in fields of their own, which any step might set one without the other.
A `Session` has no room for that: it is in front of the first file, in a file or in a hunk, and the
hunk that is open is the last one. A reader follows a session (`Reader.Follows`) if its fields say
what the session does and no two of the hunks that it has found are at one place. `Follows.feed` is
one line: reader and session are still in step behind it, or neither has moved. So the hunks of a
text are those of the session that reads it (`parse_eq_read`), and the theory of sessions holds of
readers.
-/

namespace ChangeFeed.Diff

/-- Where in a diff a session is. -/
inductive Place where
  /-- Before the first file. -/
  | preamble
  /-- In the section of a file, before its first hunk. -/
  | file (path : Value)
  /-- In a hunk, which holds the lines read so far; with the numbers of the next removed and the
  next added line. -/
  | hunk (h : Hunk) (oldNext newNext : Int)
  deriving DecidableEq, Repr

/-- What has been read of a diff: the hunks that are complete, and the place. -/
structure Session where
  complete : List Hunk := []
  place : Place := .preamble
  deriving DecidableEq, Repr

namespace Place

/-- The file whose section this is. -/
def file? : Place → Option Value
  | preamble => none
  | file path => some path
  | hunk h _ _ => some h.filename

/-- The hunk that is being read. -/
def hunk? : Place → Option Hunk
  | hunk h _ _ => some h
  | _ => none

/-- The number of the next removed line. -/
def oldNext? : Place → Option Int
  | hunk _ n _ => some n
  | _ => none

/-- The number of the next added line. -/
def newNext? : Place → Option Int
  | hunk _ _ n => some n
  | _ => none

end Place

namespace Session

/-- All hunks read so far, the one being read last. -/
def hunks (s : Session) : List Hunk := s.complete ++ s.place.hunk?.toList

/-- The session in the section of a new file. -/
def enterFile (s : Session) (path : Text) : Session := ⟨s.hunks, .file (.text path)⟩

/-- The session in a new hunk of a file. -/
def enterHunk (s : Session) (path : Value) (old new : Span) : Except Numeral.Problem Session := do
  let (oldStart, oldCount) ← old.read
  let (newStart, newCount) ← new.read
  let newEnd := newStart + newCount - 1
  let h : Hunk := {
    filename := path
    oldStart
    oldEnd := oldStart + oldCount - 1
    newStart
    newEnd }
  return ⟨s.hunks, .hunk h oldStart newEnd⟩

/-- The place after a line of content. -/
def content (line : LineKind) : Place → Place
  | .hunk h old new =>
    match line with
    | .added t => .hunk { h with newLines := h.newLines ++ [⟨new, t⟩] } old (new + 1)
    | .removed t => .hunk { h with oldLines := h.oldLines ++ [⟨old, t⟩] } (old + 1) new
    | _ => .hunk h (old + 1) (new + 1)
  | p => p

/-- The session after a line of the given kind. -/
def step (s : Session) (line : LineKind) : Except Numeral.Problem Session :=
  match line with
  | .fileHeader path => .ok (s.enterFile path)
  | .about => .ok s
  | .hunkHeader old new =>
    match s.place.file? with
    | some path => s.enterHunk path old new
    | none => .ok s
  | line => .ok { s with place := content line s.place }

/-- The session after a line, of which one carriage return at the end does not count. -/
def feed (s : Session) (line : Text) : Except Numeral.Problem Session :=
  s.step (.of (Text.dropReturn line))

/-- The session after lines, or as it was before the first line that cannot be read, with the
problem. -/
def feedAll (s : Session) : List Text → Session × Option Numeral.Problem
  | [] => (s, none)
  | line :: lines =>
    match s.feed line with
    | .ok s => feedAll s lines
    | .error p => (s, some p)

theorem feedAll_append (s : Session) (front back : List Text) :
    s.feedAll (front ++ back) =
      match s.feedAll front with
      | (s, none) => s.feedAll back
      | r => r := by
  induction front generalizing s with
  | nil => rfl
  | cons line front ih =>
    rw [List.cons_append, feedAll, feedAll]
    cases s.feed line with
    | ok s => exact ih s
    | error p => rfl

/-- A session that has read a whole text. -/
def read (t : Text) : Session × Option Numeral.Problem := feedAll {} (Text.splitLines t)

end Session

/-! ### Hunks that are being made -/

namespace Draft

/-- The lines have numbers. -/
def AreNumbered (ls : List (Option Int × Text)) : Prop := ∀ l ∈ ls, l.1.isSome

/-- All lines of the hunk have numbers. -/
structure IsNumbered (d : Draft) : Prop where
  old : AreNumbered d.oldLines
  new : AreNumbered d.newLines

theorem AreNumbered.append {ls : List (Option Int × Text)} (h : AreNumbered ls) (n : Int)
    (t : Text) : AreNumbered (ls ++ [(some n, t)]) :=
  List.forall_mem_append.2 ⟨h, List.forall_mem_singleton.2 rfl⟩

theorem known_append (ls : List (Option Int × Text)) (n : Int) (t : Text) :
    known (ls ++ [(some n, t)]) = known ls ++ [⟨n, t⟩] := List.filterMap_append

/-- The hunk became another one by lines behind those that it had. -/
structure Grows (d d' : Draft) : Prop where
  outline : { d' with oldLines := d.oldLines, newLines := d.newLines } = d
  old : d.oldLines <+: d'.oldLines
  new : d.newLines <+: d'.newLines

theorem Grows.refl (d : Draft) : d.Grows d := ⟨rfl, List.prefix_rfl, List.prefix_rfl⟩

end Draft

namespace Reader

/-- One more hunk may be found, behind the others, and of those that were made only the open one may
have grown. -/
structure Extends (r r' : Reader) : Prop where
  found : ∃ new, new.length ≤ 1 ∧ r'.found = r.found ++ new
  others : ∀ i < r.made.length, r.current ≠ some i → r'.made[i]? = r.made[i]?
  current : ∀ i, r.current = some i → ∀ d, r.made[i]? = some d →
    ∃ d', r'.made[i]? = some d' ∧ d.Grows d'

theorem Extends.refl (r : Reader) : r.Extends r where
  found := ⟨[], Nat.zero_le 1, (List.append_nil _).symm⟩
  others _ _ _ := rfl
  current _ _ d hd := ⟨d, hd, .refl d⟩

/-- What the reader knows is what the session says, and no two hunks that it has found are at one
place. -/
structure Follows (r : Reader) (s : Session) : Prop where
  file : r.filename.map .text = s.place.file?
  oldNext : r.oldNext = s.place.oldNext?
  newNext : r.newNext = s.place.newNext?
  current : r.current = if s.place.hunk?.isSome then r.found.getLast? else none
  found : r.found.map r.hunkAt? = s.hunks.map some
  distinct : r.found.Nodup
  isNumbered : ∀ d ∈ r.made, d.IsNumbered

namespace Follows

variable {r r' : Reader} {s s' : Session} {line : Text}

theorem hunks_eq (h : r.Follows s) : r.hunks = s.hunks := by
  have hid : r.hunks = (r.found.map r.hunkAt?).filterMap id := by
    rw [List.filterMap_map]
    rfl
  rw [hid, h.found, List.filterMap_map]
  exact List.filterMap_some

theorem exists_made (h : r.Follows s) {i : Nat} (hi : i ∈ r.found) : ∃ d, r.made[i]? = some d := by
  have hm : r.hunkAt? i ∈ s.hunks.map some := h.found ▸ List.mem_map_of_mem hi
  obtain ⟨x, -, hx⟩ := List.mem_map.1 hm
  obtain ⟨d, hd, -⟩ := Option.map_eq_some_iff.1 hx.symm
  exact ⟨d, hd⟩

theorem lt_length (h : r.Follows s) {i : Nat} (hi : i ∈ r.found) : i < r.made.length := by
  obtain ⟨d, hd⟩ := h.exists_made hi
  exact (List.getElem?_eq_some_iff.1 hd).1

theorem reset (h : r.Follows s) : Follows { made := r.made } {} where
  file := rfl
  oldNext := rfl
  newNext := rfl
  current := rfl
  found := rfl
  distinct := List.nodup_nil
  isNumbered := h.isNumbered

theorem new : Follows {} {} where
  file := rfl
  oldNext := rfl
  newNext := rfl
  current := rfl
  found := rfl
  distinct := List.nodup_nil
  isNumbered := nofun

/-! ### One line -/

theorem enterFile (h : r.Follows s) (path : Text) :
    Follows { r with filename := some path, oldNext := none, newNext := none, current := none }
      (s.enterFile path) where
  file := rfl
  oldNext := rfl
  newNext := rfl
  current := rfl
  found := by
    have hs : (s.enterFile path).hunks = s.hunks := List.append_nil _
    rw [hs]
    exact h.found
  distinct := h.distinct
  isNumbered := h.isNumbered

theorem openHunk {d : Draft} {path : Text} {old new : Int} (h : r.Follows s)
    (hd : d.IsNumbered) (hp : r.filename = some path) (hfile : d.filename = some path) :
    Follows { r with
        oldNext := some old, newNext := some new, current := some r.made.length
        made := r.made ++ [d], found := r.found ++ [r.made.length] }
      ⟨s.hunks, .hunk d.hunk old new⟩ where
  file := by
    change r.filename.map Value.text = some (d.filename.elim .null .text)
    rw [hp, hfile]
    rfl
  oldNext := rfl
  newNext := rfl
  current := (List.getLast?_concat ..).symm
  found := by
    -- the new hunk is made behind the others, so these are where they were
    have hfront : ∀ i ∈ r.found, (r.made ++ [d])[i]? = r.made[i]? := fun i hi =>
      List.getElem?_append_left (h.lt_length hi)
    have hsame :
        r.found.map (fun i => ((r.made ++ [d])[i]?).map Draft.hunk) = s.hunks.map some := by
      rw [← h.found]
      exact List.map_congr_left fun i hi => by rw [hfront i hi, hunkAt?]
    change (r.found ++ [r.made.length]).map (fun i => ((r.made ++ [d])[i]?).map Draft.hunk) =
      (s.hunks ++ [d.hunk]).map some
    rw [List.map_append, hsame, List.map_append]
    simp
  distinct := by
    refine List.Nodup.append h.distinct (List.nodup_singleton _) ?_
    rw [List.disjoint_singleton]
    exact fun hi => Nat.lt_irrefl _ (h.lt_length hi)
  isNumbered := List.forall_mem_append.2 ⟨h.isNumbered, List.forall_mem_singleton.2 hd⟩

theorem exists_current {complete : List Hunk} {x : Hunk} {old new : Int}
    (h : r.Follows ⟨complete, .hunk x old new⟩) :
    ∃ front i d, r.found = front ++ [i] ∧ r.current = some i ∧ r.made[i]? = some d ∧
      d.hunk = x ∧ front.map r.hunkAt? = complete.map some ∧ i ∉ front := by
  have hfound : r.found.map r.hunkAt? = (complete ++ [x]).map some := h.found
  rcases List.eq_nil_or_concat' r.found with hnil | ⟨front, i, hi⟩
  · rw [hnil] at hfound
    simp at hfound
  · rw [hi, List.map_append, List.map_append] at hfound
    obtain ⟨hfront, hlast⟩ := List.append_inj' hfound rfl
    obtain ⟨d, hd, hx⟩ := Option.map_eq_some_iff.1 (List.cons.inj hlast).1
    have hcurrent : r.current = some i := by
      rw [h.current, hi]
      exact List.getLast?_concat ..
    have hnodup := h.distinct
    rw [hi] at hnodup
    exact ⟨front, i, d, hi, hcurrent, hd, hx, hfront, fun hm =>
      List.disjoint_of_nodup_append hnodup hm (List.mem_singleton_self i)⟩

theorem grow {complete : List Hunk} {x y : Hunk} {old new old' new' : Int} {i : Nat}
    {f : Draft → Draft} (h : r.Follows ⟨complete, .hunk x old new⟩) (hi : r.current = some i)
    (hf : ∀ d : Draft, d.hunk = x → d.IsNumbered → (f d).hunk = y ∧ (f d).IsNumbered)
    (hfile : y.filename = x.filename) :
    Follows { r with oldNext := some old', newNext := some new', made := r.made.modify i f }
      ⟨complete, .hunk y old' new'⟩ := by
  obtain ⟨front, j, d, hfound, hj, hd, hx, hfront, hnot⟩ := h.exists_current
  obtain rfl : j = i := Option.some.inj (hj.symm.trans hi)
  -- no place occurs twice among the hunks that were found, so only the last of them is another one
  have hother : ∀ k ∈ front, (r.made.modify j f)[k]? = r.made[k]? := fun k hk =>
    List.getElem?_modify_ne f _ fun he => hnot (he ▸ hk)
  have hhere : (r.made.modify j f)[j]? = some (f d) := by
    rw [List.getElem?_modify_eq, hd]
    rfl
  have hd' := hf d hx (h.isNumbered d (List.mem_of_getElem? hd))
  refine ⟨?_, rfl, rfl, ?_, ?_, h.distinct, fun e he => ?_⟩
  · rw [h.file]
    exact congrArg some hfile.symm
  · rw [hi, hfound]
    exact (List.getLast?_concat ..).symm
  · have hsame : front.map (fun k => ((r.made.modify j f)[k]?).map Draft.hunk) =
        complete.map some := by
      rw [← hfront]
      exact List.map_congr_left fun k hk => by rw [hother k hk, hunkAt?]
    change r.found.map (fun k => ((r.made.modify j f)[k]?).map Draft.hunk) =
      (complete ++ [y]).map some
    rw [hfound, List.map_append, hsame, List.map_append, List.map_singleton, hhere]
    exact congrArg (complete.map some ++ [some ·]) hd'.1
  · obtain ⟨k, hk⟩ := List.mem_iff_getElem?.1 he
    by_cases hkj : j = k
    · subst hkj
      obtain rfl := Option.some.inj (hhere.symm.trans hk)
      exact hd'.2
    · rw [List.getElem?_modify_ne f _ hkj] at hk
      exact h.isNumbered e (List.mem_of_getElem? hk)

end Follows

/-- What reader and session come to with a line: both have taken it in, or neither has. -/
inductive InStep (r : Reader) : Except Numeral.Problem Session → Except Failure Unit × Reader → Prop
  | moved {r' : Reader} {s' : Session} : r'.Follows s' → r.Extends r' →
      InStep r (.ok s') (.ok (), r')
  | refused {p : Numeral.Problem} : InStep r (.error p) (.error (.numeral p), r)

variable {r r' : Reader} {s s' : Session} {line : Text}

theorem extends_modify {i : Nat} (hi : r.current = some i) {f : Draft → Draft}
    (hf : ∀ d : Draft, d.Grows (f d)) (old new : Option Int) :
    r.Extends { r with oldNext := old, newNext := new, made := r.made.modify i f } where
  found := ⟨[], Nat.zero_le 1, (List.append_nil _).symm⟩
  others j _ hj := List.getElem?_modify_ne f _ fun he => hj (he ▸ hi)
  current j hj d hd := by
    obtain rfl := Option.some.inj (hi.symm.trans hj)
    exact ⟨f d, by rw [List.getElem?_modify_eq, hd]; rfl, hf d⟩

theorem extends_openHunk (d : Draft) (old new : Option Int) :
    r.Extends { r with
      oldNext := old, newNext := new, current := some r.made.length, made := r.made ++ [d]
      found := r.found ++ [r.made.length] } where
  found := ⟨[r.made.length], Nat.le_refl 1, rfl⟩
  others _ hi _ := List.getElem?_append_left hi
  current _ _ e he :=
    ⟨e, (List.getElem?_append_left (List.getElem?_eq_some_iff.1 he).1).trans he, .refl e⟩

theorem extends_enterFile (r : Reader) (path : Text) :
    r.Extends { r with
      filename := some path, oldNext := none, newNext := none, current := none } where
  found := ⟨[], Nat.zero_le 1, (List.append_nil _).symm⟩
  others _ _ _ := rfl
  current _ _ d hd := ⟨d, hd, .refl d⟩

theorem exec_countOld {n : Int} (h : r.oldNext = some n) :
    countOld.exec r = (.ok (), { r with oldNext := some (n + 1) }) := by
  rw [countOld, Attempt.exec_bind, Attempt.exec_get]
  simp only [h, following, Attempt.exec_bind, Attempt.exec_ofExcept]
  rfl

theorem exec_countNew {n : Int} (h : r.newNext = some n) :
    countNew.exec r = (.ok (), { r with newNext := some (n + 1) }) := by
  rw [countNew, Attempt.exec_bind, Attempt.exec_get]
  simp only [h, following, Attempt.exec_bind, Attempt.exec_ofExcept]
  rfl

namespace Follows

theorem contentAt {complete : List Hunk} {x : Hunk} {old new : Int} {i : Nat}
    (h : r.Follows ⟨complete, .hunk x old new⟩) (hi : r.current = some i) (k : LineKind) :
    r.InStep (.ok ⟨complete, Session.content k (.hunk x old new)⟩)
      ((Reader.contentAt i k).exec r) := by
  have hold : r.oldNext = some old := h.oldNext
  have hnew : r.newNext = some new := h.newNext
  cases k with
  | added t =>
    let f (d : Draft) : Draft := { d with newLines := d.newLines ++ [(r.newNext, t)] }
    have hexec : (Reader.contentAt i (.added t)).exec r = (.ok (), { r with
        oldNext := some old, newNext := some (new + 1), made := r.made.modify i f }) := by
      rw [Reader.contentAt, Attempt.exec_bind, Attempt.exec_modify, ← hold]
      exact exec_countNew hnew
    have hf : ∀ d : Draft, d.hunk = x → d.IsNumbered →
        (f d).hunk = { x with newLines := x.newLines ++ [⟨new, t⟩] } ∧ (f d).IsNumbered := by
      rintro d rfl hd
      simp only [f, hnew, Draft.hunk, Draft.known_append]
      exact ⟨trivial, hd.old, hd.new.append new t⟩
    have hg : ∀ d : Draft, d.Grows (f d) := fun d =>
      ⟨rfl, List.prefix_rfl, List.prefix_append _ _⟩
    rw [hexec]
    exact .moved (h.grow hi hf rfl) (extends_modify hi hg _ _)
  | removed t =>
    let f (d : Draft) : Draft := { d with oldLines := d.oldLines ++ [(r.oldNext, t)] }
    have hexec : (Reader.contentAt i (.removed t)).exec r = (.ok (), { r with
        oldNext := some (old + 1), newNext := some new, made := r.made.modify i f }) := by
      rw [Reader.contentAt, Attempt.exec_bind, Attempt.exec_modify, ← hnew]
      exact exec_countOld hold
    have hf : ∀ d : Draft, d.hunk = x → d.IsNumbered →
        (f d).hunk = { x with oldLines := x.oldLines ++ [⟨old, t⟩] } ∧ (f d).IsNumbered := by
      rintro d rfl hd
      simp only [f, hold, Draft.hunk, Draft.known_append]
      exact ⟨trivial, hd.old.append old t, hd.new⟩
    have hg : ∀ d : Draft, d.Grows (f d) := fun d =>
      ⟨rfl, List.prefix_append _ _, List.prefix_rfl⟩
    rw [hexec]
    exact .moved (h.grow hi hf rfl) (extends_modify hi hg _ _)
  | _ =>
    have hexec : ((do countOld; countNew) : Attempt Reader Failure Unit).exec r = (.ok (), { r with
        oldNext := some (old + 1), newNext := some (new + 1), made := r.made.modify i id }) := by
      rw [Attempt.exec_bind, exec_countOld hold, List.modify_id]
      exact exec_countNew hnew
    have hmoved : r.InStep (.ok ⟨complete, .hunk x (old + 1) (new + 1)⟩)
        ((do countOld; countNew : Attempt Reader Failure Unit).exec r) := by
      rw [hexec]
      exact .moved (h.grow hi (fun d hx hd => ⟨hx, hd⟩) rfl)
        (extends_modify hi Draft.Grows.refl _ _)
    exact hmoved

theorem content (h : r.Follows s) (k : LineKind) :
    r.InStep (.ok { s with place := Session.content k s.place }) ((Reader.content k).exec r) := by
  rw [Reader.content, Attempt.exec_bind, Attempt.exec_get]
  obtain ⟨complete, place⟩ := s
  cases place with
  | preamble | file _ =>
    have hnone : r.current = none := h.current
    simp only [hnone]
    exact .moved h (.refl r)
  | hunk x old new =>
    obtain ⟨front, i, d, -, hi, -⟩ := h.exists_current
    simp only [hi]
    exact h.contentAt hi k

/-- The header of a hunk opens one, unless a number in it is too long: then nothing has been done
yet. -/
theorem openHunk_inStep {path : Text} (h : r.Follows s) (hp : r.filename = some path)
    (old new : Span) :
    r.InStep (s.enterHunk (.text path) old new) ((Reader.openHunk old new).exec r) := by
  rw [Reader.openHunk, Attempt.exec_bind, Attempt.exec_ofExcept]
  unfold Session.enterHunk
  cases old.read with
  | error p => exact .refused
  | ok o =>
    simp only [Except.mapError, Attempt.exec_bind, Attempt.exec_ofExcept]
    cases new.read with
    | error p => exact .refused
    | ok n =>
      let d : Draft :=
        { filename := r.filename, oldStart := o.1, oldEnd := o.1 + o.2 - 1, newStart := n.1
          newEnd := n.1 + n.2 - 1 }
      have hd : d.hunk = ⟨.text path, d.oldStart, d.oldEnd, d.newStart, d.newEnd, [], []⟩ := by
        simp only [d, Draft.hunk, hp]
        rfl
      have hnumbered : d.IsNumbered := ⟨nofun, nofun⟩
      have hfollows : Follows _ ⟨s.hunks, .hunk d.hunk d.oldStart d.newEnd⟩ :=
        h.openHunk hnumbered hp hp
      rw [hd] at hfollows
      exact .moved hfollows (extends_openHunk d _ _)

/-- One line of a kind takes reader and session on together, or it stops both. -/
theorem step (h : r.Follows s) (k : LineKind) : r.InStep (s.step k) ((Reader.step k).exec r) := by
  rw [Reader.step, Attempt.exec_bind, Attempt.exec_get]
  have hfile := h.file
  cases hp : r.filename with
  | none =>
    rw [hp] at hfile
    obtain ⟨complete, place⟩ := s
    cases place with
    | preamble =>
      cases k with
      | fileHeader path => exact .moved (h.enterFile path) (extends_enterFile r path)
      | _ =>
        simp only [hp]
        exact .moved h (.refl r)
    | _ => cases hfile
  | some path =>
    rw [hp] at hfile
    cases k with
    | fileHeader path => exact .moved (h.enterFile path) (extends_enterFile r path)
    | about => exact .moved h (.refl r)
    | hunkHeader old new =>
      rw [Session.step, ← hfile]
      simp only [hp]
      exact h.openHunk_inStep hp old new
    | added t | removed t | context =>
      simp only [hp]
      exact h.content _

theorem feed (h : r.Follows s) (line : Text) :
    r.InStep (s.feed line) ((Reader.feed line).exec r) := h.step _

/-! ### Many lines -/

/-- Lines take reader and session on together, up to the first one that stops both. -/
theorem forM_feed (h : r.Follows s) (lines : List Text) :
    ∃ r', r'.Follows (s.feedAll lines).1 ∧ (lines.forM Reader.feed).exec r =
      (match (s.feedAll lines).2 with
        | none => .ok ()
        | some p => .error (.numeral p), r') := by
  induction lines generalizing r s with
  | nil => exact ⟨r, h, rfl⟩
  | cons line lines ih =>
    have hline := h.feed line
    rw [Session.feedAll, List.forM_eq_forM, List.forM_cons, Attempt.exec_bind]
    generalize hx : s.feed line = x at hline ⊢
    generalize (Reader.feed line).exec r = y at hline ⊢
    cases hline with
    | moved hnext _ => exact ih hnext
    | refused => exact ⟨r, h, rfl⟩

end Follows

end Reader

/-- The hunks of a text are those of the session that reads it. -/
theorem parse_eq_read (t : Text) : parse t = match Session.read t with
    | (s, none) => .ok s.hunks
    | (_, some p) => .error (.numeral p) := by
  obtain ⟨r, hr, hexec⟩ := Reader.Follows.new.forM_feed (Text.splitLines t)
  have hparse : parse t = match ((Text.splitLines t).forM Reader.feed).exec {} with
      | (.ok _, r) => .ok r.hunks
      | (.error f, _) => .error f := by
    unfold parse Reader.parse
    rw [Attempt.exec_bind, Reader.reset, Attempt.exec_modify]
    simp only [Attempt.exec_bind, Attempt.exec_ofExcept, Value.textFor_text, Except.mapError]
    rcases ((Text.splitLines t).forM Reader.feed).exec {} with ⟨e | u, r⟩ <;> rfl
  rw [hparse, hexec, Session.read]
  rcases hread : Session.feedAll {} (Text.splitLines t) with ⟨s, _ | p⟩
  · rw [hread] at hr
    exact congrArg Except.ok hr.hunks_eq
  · rfl

/-- Nothing but a number that is too long keeps a text from being read. -/
theorem exists_of_parse_eq_error {t : Text} {f : Failure} (h : parse t = .error f) :
    ∃ p, f = .numeral p := by
  rw [parse_eq_read] at h
  split at h
  · cases h
  · exact ⟨_, (Except.error.inj h).symm⟩

end ChangeFeed.Diff
