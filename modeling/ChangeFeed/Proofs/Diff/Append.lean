import ChangeFeed.Proofs.Diff.Reading

/-!
# One diff behind another

The hunks that are complete never matter for what a line does, so reading goes the same way behind
any of them (`feedAll_behind`). The header of a file closes the hunk that is open. So a diff that
begins with one (`startsWithFile`) is read behind another text as it is read alone (`parse_append`).
-/

namespace ChangeFeed.Diff

open Text

/-- Whether the first line of a text is the header of a file. -/
def startsWithFile (t : Text) : Bool :=
  (splitLines t).head?.any fun line => (scanFileHeader? (dropReturn line)).isSome

theorem startsWithFile_iff {t : Text} :
    startsWithFile t = true ↔ ∃ line lines path, splitLines t = line :: lines ∧
      scanFileHeader? (dropReturn line) = some path := by
  unfold startsWithFile
  cases h : splitLines t with
  | nil => simp
  | cons line lines => simp [Option.isSome_iff_exists]

namespace Session

variable {s : Session} {hs : List Hunk}

/-- The session with complete hunks put in front of its own. -/
def behind (hs : List Hunk) (s : Session) : Session := ⟨hs ++ s.complete, s.place⟩

@[simp]
theorem hunks_behind : (s.behind hs).hunks = hs ++ s.hunks := List.append_assoc ..

theorem enterFile_behind (path : Text) :
    (s.behind hs).enterFile path = (s.enterFile path).behind hs := by
  rw [enterFile, hunks_behind]
  rfl

theorem enterHunk_behind (path : Value) (old new : Span) :
    (s.behind hs).enterHunk path old new = (s.enterHunk path old new).map (behind hs) := by
  unfold enterHunk
  rw [hunks_behind]
  cases old.read with
  | error p => rfl
  | ok o => cases new.read <;> rfl

theorem step_behind (k : LineKind) :
    (s.behind hs).step k = (s.step k).map (behind hs) := by
  cases k with
  | fileHeader path => exact congrArg Except.ok (enterFile_behind path)
  | hunkHeader old new =>
    have hp : (s.behind hs).place = s.place := rfl
    rw [step, step, hp]
    cases s.place.file? with
    | none => rfl
    | some path => exact enterHunk_behind path old new
  | _ => rfl

theorem feedAll_behind (lines : List Text) :
    (s.behind hs).feedAll lines = ((s.feedAll lines).1.behind hs, (s.feedAll lines).2) := by
  induction lines generalizing s with
  | nil => rfl
  | cons line lines ih =>
    rw [feedAll, feedAll, feed, feed, step_behind]
    cases s.step (.of (dropReturn line)) with
    | ok s' => exact ih
    | error p => rfl

theorem enterFile_eq_behind (s : Session) (path : Text) :
    s.enterFile path = (enterFile {} path).behind s.hunks := by
  simp [enterFile, behind, hunks, Place.hunk?]

/-- Lines that begin with the header of a file are read behind any session as by a new one. -/
theorem feedAll_of_fileHeader {line path : Text}
    (h : scanFileHeader? (dropReturn line) = some path) (s : Session) (lines : List Text) :
    s.feedAll (line :: lines) =
      ((feedAll {} (line :: lines)).1.behind s.hunks, (feedAll {} (line :: lines)).2) := by
  rw [feedAll, feedAll, feed_fileHeader h, feed_fileHeader h]
  exact (congrArg (feedAll · lines) (s.enterFile_eq_behind path)).trans (feedAll_behind lines)

end Session

/-- A diff that begins with the header of a file is read behind another text as it is read alone. -/
theorem parse_append {d₁ d₂ : Text} (h : startsWithFile d₂) :
    parse (d₁ ++ '\n' :: d₂) = do
      let hs₁ ← parse d₁
      let hs₂ ← parse d₂
      return hs₁ ++ hs₂ := by
  obtain ⟨line, lines, path, hl, hf⟩ := startsWithFile_iff.1 h
  simp only [parse_eq_read, Session.read, splitLines_append_newline, Session.feedAll_append, hl]
  rcases Session.feedAll {} (splitLines d₁) with ⟨s, _ | p⟩
  · simp only [Session.feedAll_of_fileHeader hf s lines]
    rcases Session.feedAll {} (line :: lines) with ⟨s', _ | p⟩
    · exact congrArg Except.ok Session.hunks_behind
    · rfl
  · rfl

end ChangeFeed.Diff
