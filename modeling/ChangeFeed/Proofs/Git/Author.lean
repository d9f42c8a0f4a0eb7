import ChangeFeed.Proofs.Git.Questions

/-!
# Authors that cannot be told

The author line has three fields with bars between them, the last of which is a number of seconds
(`readAuthor_eq_ok_iff`). What cannot be read is a declared failure, and so is a run of git that did
not end well. The exceptions are listed by `Escapes`: a user who breaks off the run, a time limit
that no message can show, and numbers of seconds that are too far away to have a year at all, while
those that have one are declared failures (`makes_author_iff`).
-/

namespace ChangeFeed

namespace Text

theorem not_mem_of_mem_splitOn {sep : Char} {t piece : Text} (h : piece ∈ t.splitOn sep) :
    sep ∉ piece := by
  induction t generalizing piece with
  | nil =>
    obtain rfl := List.mem_singleton.1 h
    exact List.not_mem_nil
  | cons c t ih =>
    rw [List.splitOn_cons_eq_if_modifyHead] at h
    split at h
    · rcases List.mem_cons.1 h with rfl | h
      · exact List.not_mem_nil
      · exact ih h
    · next hc =>
      cases hpieces : t.splitOn sep with
      | nil => exact absurd hpieces (List.splitOn_ne_nil _ _)
      | cons first pieces =>
        rw [hpieces] at h ih
        rcases List.mem_cons.1 h with rfl | h
        · have hfirst := ih List.mem_cons_self
          simp only [beq_iff_eq] at hc
          simp [hfirst, Ne.symm hc]
        · exact ih (List.mem_cons_of_mem _ h)

end Text

namespace Instant
variable {n : Int} {i : Instant}

/-- The count does not fit in 64 bits. -/
def HasTooManySeconds (n : Int) : Prop := n < -0x8000000000000000 ∨ 0x8000000000000000 ≤ n

/-- The count fits in 64 bits, but its year does not fit in 32. -/
def HasTooManyYears (n : Int) : Prop :=
  ¬HasTooManySeconds n ∧ (n < -67768040609740800 ∨ 67768036191676800 ≤ n)

instance (n : Int) : Decidable (HasTooManySeconds n) := inferInstanceAs (Decidable (_ ∨ _))

theorem ofSeconds_eq_ok_iff : ofSeconds n = .ok i ↔ n = i.seconds ∧ i.millionths = 0 := by
  constructor
  · intro h
    unfold ofSeconds at h
    split at h
    · cases h
    · split at h
      · cases h
      · split at h
        · cases h
          exact ⟨rfl, rfl⟩
        · cases h
  · rintro ⟨rfl, h⟩
    exact ofSeconds_seconds i h

theorem ofSeconds_cases (n : Int) : (∃ i, ofSeconds n = .ok i) ∨
    (∃ y, ofSeconds n = .error (.year y)) ∨
    HasTooManySeconds n ∧ ofSeconds n = .error .tooManySeconds ∨
    HasTooManyYears n ∧ ofSeconds n = .error .tooManyYears := by
  unfold ofSeconds
  split
  · next h => exact .inr (.inr (.inl ⟨h, rfl⟩))
  · next h =>
    split
    · next hyears => exact .inr (.inr (.inr ⟨⟨h, hyears⟩, rfl⟩))
    · split
      · exact .inl ⟨_, rfl⟩
      · exact .inr (.inl ⟨_, rfl⟩)

theorem ofSeconds_of_hasTooManySeconds (h : HasTooManySeconds n) :
    ofSeconds n = .error .tooManySeconds := if_pos h

theorem ofSeconds_of_hasTooManyYears (h : HasTooManyYears n) :
    ofSeconds n = .error .tooManyYears := (if_neg h.1).trans (if_pos h.2)

end Instant

namespace Git

open Program (Outcome)
open Run (Makes)

/-- The line has three fields, with bars between them. -/
def IsAuthorLine (line name email time : Text) : Prop :=
  line = name ++ '|' :: (email ++ '|' :: time) ∧ '|' ∉ name ∧ '|' ∉ email ∧ '|' ∉ time

instance (line name email time : Text) : Decidable (IsAuthorLine line name email time) :=
  inferInstanceAs (Decidable (_ ∧ _))

/-- The failures that a caller is told of. -/
def IsDeclared (f : Failure) : Prop := f.kind = "MetadataError" ∨ f.kind = "VCSError"

instance (f : Failure) : Decidable (IsDeclared f) := inferInstanceAs (Decidable (_ ∨ _))

/-- The failures of which a caller is not told, and what comes of git when they occur. -/
inductive Escapes (c : Client) : Outcome → Failure → Prop
  | interrupted : Escapes c .interrupted (.program .interrupted)
  | limit (large : c.limit.fits = false) : Escapes c .timedOut (.numeral .tooLarge)
  | seconds {stdout stderr : Option Text} {name email time : Text} {n : Int}
    (line : IsAuthorLine (Text.strip (stdout.getD [])) name email time)
    (read : Numeral.read time = .ok n) (far : Instant.HasTooManySeconds n) :
    Escapes c (.finished stdout stderr 0) (.instant .tooManySeconds)
  | years {stdout stderr : Option Text} {name email time : Text} {n : Int}
    (line : IsAuthorLine (Text.strip (stdout.getD [])) name email time)
    (read : Numeral.read time = .ok n) (far : Instant.HasTooManyYears n) :
    Escapes c (.finished stdout stderr 0) (.instant .tooManyYears)

variable {line name email time : Text} {f : Failure} {i : Instant}

theorem isDeclared_git (p : Problem) : IsDeclared (.git p) := by
  cases p with
  | authorLine _ => exact .inl rfl
  | time _ => exact .inl rfl
  | _ => exact .inr rfl

/-! ### The author line -/

theorem splitOn_eq_iff :
    line.splitOn '|' = [name, email, time] ↔ IsAuthorLine line name email time := by
  constructor
  · intro h
    have hpiece : ∀ piece ∈ [name, email, time], '|' ∉ piece := by
      rw [← h]
      exact fun piece => Text.not_mem_of_mem_splitOn
    have hline : ['|'].intercalate (line.splitOn '|') = line := List.intercalate_splitOn '|'
    rw [h] at hline
    exact ⟨by simpa [List.intercalate] using hline.symm, hpiece _ (by simp), hpiece _ (by simp),
      hpiece _ (by simp)⟩
  · rintro ⟨rfl, hname, hemail, htime⟩
    rw [List.splitOn_append_cons_self_of_not_mem hname,
      List.splitOn_append_cons_self_of_not_mem hemail, List.splitOn_eq_singleton htime]

theorem readTime_eq_ok_iff {t : Text} :
    readTime t = .ok i ↔ Numeral.read t = .ok i.seconds ∧ i.millionths = 0 := by
  unfold readTime
  cases hread : Numeral.read t with
  | error p => simp
  | ok n =>
    simp only [Except.ok.injEq]
    rw [← Instant.ofSeconds_eq_ok_iff]
    cases Instant.ofSeconds n with
    | ok j => simp
    | error p => cases p <;> simp

/-- A caller is not told of a number of seconds that is too far away. -/
theorem readTime_eq_error_iff {t : Text} : readTime t = .error f ∧ ¬IsDeclared f ↔
    ∃ n, Numeral.read t = .ok n ∧
      (Instant.HasTooManySeconds n ∧ f = .instant .tooManySeconds ∨
        Instant.HasTooManyYears n ∧ f = .instant .tooManyYears) := by
  constructor
  · rintro ⟨ht, hf⟩
    rw [readTime] at ht
    cases hread : Numeral.read t with
    | error p =>
      rw [hread] at ht
      cases ht
      exact absurd (isDeclared_git _) hf
    | ok n =>
      simp only [hread] at ht
      refine ⟨n, rfl, ?_⟩
      rcases Instant.ofSeconds_cases n with ⟨i, hn⟩ | ⟨y, hn⟩ | ⟨hfar, hn⟩ | ⟨hfar, hn⟩
      · rw [hn] at ht
        cases ht
      · rw [hn] at ht
        cases ht
        exact absurd (isDeclared_git _) hf
      · rw [hn] at ht
        cases ht
        exact .inl ⟨hfar, rfl⟩
      · rw [hn] at ht
        cases ht
        exact .inr ⟨hfar, rfl⟩
  · rintro ⟨n, hread, ⟨hfar, rfl⟩ | ⟨hfar, rfl⟩⟩
    · refine ⟨?_, by decide⟩
      simp only [readTime, hread, Instant.ofSeconds_of_hasTooManySeconds hfar]
    · refine ⟨?_, by decide⟩
      simp only [readTime, hread, Instant.ofSeconds_of_hasTooManyYears hfar]

/-- The first second behind the calendar has a year, so a caller is told. -/
example : readTime "253402300800" = .error (.git (.time "253402300800")) := by rfl

theorem readAuthor_cases (line : Text) :
    (∃ name email time, IsAuthorLine line name email time ∧
      readAuthor line = (readTime time).map fun i => (name, email, i)) ∨
    (∀ name email time, ¬IsAuthorLine line name email time) ∧
      readAuthor line = .error (.git (.authorLine line)) := by
  simp only [← splitOn_eq_iff]
  unfold readAuthor
  split
  · next name email time h => exact .inl ⟨name, email, time, h, rfl⟩
  · next h => exact .inr ⟨h, rfl⟩

theorem IsAuthorLine.readAuthor_eq (h : IsAuthorLine line name email time) :
    readAuthor line = (readTime time).map fun i => (name, email, i) := by
  rw [readAuthor, splitOn_eq_iff.2 h]

theorem readAuthor_eq_ok_iff : readAuthor line = .ok (name, email, i) ↔
    ∃ time, IsAuthorLine line name email time ∧ Numeral.read time = .ok i.seconds ∧
      i.millionths = 0 := by
  simp only [← readTime_eq_ok_iff]
  constructor
  · intro h
    rcases readAuthor_cases line with ⟨name', email', time, hline, hread⟩ | ⟨-, hread⟩
    · rw [hread] at h
      obtain ⟨j, hj, heq⟩ := map_eq_ok_iff.1 h
      cases heq
      exact ⟨time, hline, hj⟩
    · rw [hread] at h
      cases h
  · rintro ⟨time, hline, htime⟩
    rw [hline.readAuthor_eq, htime]
    rfl

theorem readAuthor_eq_error_iff : readAuthor line = .error f ∧ ¬IsDeclared f ↔
    ∃ name email time, IsAuthorLine line name email time ∧ readTime time = .error f ∧
      ¬IsDeclared f := by
  constructor
  · rintro ⟨h, hf⟩
    rcases readAuthor_cases line with ⟨name, email, time, hline, hread⟩ | ⟨-, hread⟩
    · rw [hread, map_eq_error_iff] at h
      exact ⟨name, email, time, hline, h, hf⟩
    · rw [hread] at h
      cases h
      exact absurd (isDeclared_git _) hf
  · rintro ⟨name, email, time, hline, htime, hf⟩
    rw [hline.readAuthor_eq, htime]
    exact ⟨rfl, hf⟩

/-! ### Answers of git -/

variable {c : Client} {out : Outcome} {arguments command : List Text} {limit : Value}

theorem read_reports_eq_error_iff :
    (c.reports arguments).read command limit out = .error f ∧ ¬IsDeclared f ↔
      out = .interrupted ∧ f = .program .interrupted ∨
        out = .timedOut ∧ limit.fits = false ∧ f = .numeral .tooLarge := by
  constructor
  · rintro ⟨h, hf⟩
    cases out with
    | finished stdout stderr code =>
      rw [Program.Reports.read] at h
      split at h
      · cases h
      · cases h
        exact absurd (isDeclared_git _) hf
    | timedOut =>
      rw [Program.Reports.read] at h
      split at h
      · cases h
        exact absurd (isDeclared_git _) hf
      · next hfits =>
        cases h
        exact .inr ⟨rfl, by simpa using hfits, rfl⟩
    | interrupted =>
      cases h
      exact .inl ⟨rfl, rfl⟩
    | _ =>
      cases h
      exact absurd (isDeclared_git _) hf
  · rintro (⟨rfl, rfl⟩ | ⟨rfl, hfits, rfl⟩)
    · exact ⟨rfl, by decide⟩
    · exact ⟨by simp [Program.Reports.read, hfits], by decide⟩

variable {outcome : Program.Request → Outcome} {directory rev : Text}

theorem hearAuthor_of_finished {stdout stderr : Option Text}
    (h : outcome (c.request directory (Client.authorArguments rev)) = .finished stdout stderr 0) :
    c.hearAuthor outcome directory rev = readAuthor (Text.strip (stdout.getD [])) := by
  rw [Client.hearAuthor, Client.hear, h]
  rfl

theorem hearAuthor_eq_ok_iff :
    c.hearAuthor outcome directory rev = .ok (name, email, i) ↔
      ∃ stdout stderr time,
        outcome (c.request directory (Client.authorArguments rev)) = .finished stdout stderr 0 ∧
        IsAuthorLine (Text.strip (stdout.getD [])) name email time ∧
        Numeral.read time = .ok i.seconds ∧ i.millionths = 0 := by
  constructor
  · intro h
    obtain ⟨answer, hanswer, hread⟩ := bind_eq_ok_iff.1 h
    obtain ⟨t, ht, rfl⟩ := map_eq_ok_iff.1 hanswer
    obtain ⟨stdout, stderr, hout, rfl⟩ := Program.Reports.read_eq_ok_iff.1 ht
    obtain ⟨time, htime⟩ := readAuthor_eq_ok_iff.1 hread
    exact ⟨stdout, stderr, time, hout, htime⟩
  · rintro ⟨stdout, stderr, time, hout, htime⟩
    rw [hearAuthor_of_finished hout]
    exact readAuthor_eq_ok_iff.2 ⟨time, htime⟩

theorem hearAuthor_eq_error_iff :
    c.hearAuthor outcome directory rev = .error f ∧ ¬IsDeclared f ↔
      Escapes c (outcome (c.request directory (Client.authorArguments rev))) f := by
  constructor
  · rintro ⟨h, hf⟩
    rcases bind_eq_error_iff.1 h with h | ⟨answer, hanswer, h⟩
    · rcases read_reports_eq_error_iff.1 ⟨map_eq_error_iff.1 h, hf⟩ with
        ⟨hout, rfl⟩ | ⟨hout, hfits, rfl⟩
      · rw [hout]
        exact .interrupted
      · rw [hout]
        exact .limit hfits
    · obtain ⟨t, ht, rfl⟩ := map_eq_ok_iff.1 hanswer
      obtain ⟨stdout, stderr, hout, rfl⟩ := Program.Reports.read_eq_ok_iff.1 ht
      obtain ⟨name, email, time, hline, htime⟩ := readAuthor_eq_error_iff.1 ⟨h, hf⟩
      obtain ⟨n, hn, ⟨hfar, rfl⟩ | ⟨hfar, rfl⟩⟩ := readTime_eq_error_iff.1 htime
      · rw [hout]
        exact .seconds hline hn hfar
      · rw [hout]
        exact .years hline hn hfar
  · intro h
    generalize hout : outcome (c.request directory (Client.authorArguments rev)) = out at h
    cases h with
    | interrupted =>
      obtain ⟨hread, hf⟩ := read_reports_eq_error_iff.2 (.inl ⟨hout, rfl⟩)
      exact ⟨bind_eq_error_iff.2 (.inl (map_eq_error_iff.2 hread)), hf⟩
    | limit hfits =>
      obtain ⟨hread, hf⟩ := read_reports_eq_error_iff.2 (.inr ⟨hout, hfits, rfl⟩)
      exact ⟨bind_eq_error_iff.2 (.inl (map_eq_error_iff.2 hread)), hf⟩
    | seconds hline hn hfar =>
      rw [hearAuthor_of_finished hout]
      exact readAuthor_eq_error_iff.2
        ⟨_, _, _, hline, readTime_eq_error_iff.2 ⟨_, hn, .inl ⟨hfar, rfl⟩⟩⟩
    | years hline hn hfar =>
      rw [hearAuthor_of_finished hout]
      exact readAuthor_eq_error_iff.2
        ⟨_, _, _, hline, readTime_eq_error_iff.2 ⟨_, hn, .inr ⟨hfar, rfl⟩⟩⟩

/-- Git is asked once for the author of a commit. Name, email and time are told exactly if it writes
them in one line, and all other cases are declared failures but for those that escape. -/
theorem makes_author_iff (c : Client) (files : FileTree) (directory rev : Text) {s : Surroundings}
    (hs : ∀ q, s.answer q = (outcome q).answer) :
    let asked := c.request directory (Client.authorArguments rev)
    ∃ result, Makes s files (author c directory (.text rev)) [asked] result ∧
      (∀ name email i, result = .ok (name, email, i) ↔
        ∃ stdout stderr time, outcome asked = .finished stdout stderr 0 ∧
          IsAuthorLine (Text.strip (stdout.getD [])) name email time ∧
          Numeral.read time = .ok i.seconds ∧ i.millionths = 0) ∧
      ∀ f, result = .error f ∧ ¬IsDeclared f ↔ Escapes c (outcome asked) f := by
  intro asked
  refine ⟨c.hearAuthor outcome directory rev, makes_author hs, fun name email i => ?_, fun f => ?_⟩
  · exact hearAuthor_eq_ok_iff
  · exact hearAuthor_eq_error_iff

/-- A commit of which git writes a time that does not fit in 64 bits. -/
def farAway : Program.Request → Outcome := fun _ =>
  .finished (some "Jane Doe|jane@example.com|99999999999999999999\n") (some []) 0

theorem makes_author_farAway :
    let c : Client := { limit := .int 30, remote := .text "origin", urlTemplate := .text [] }
    let s : Surroundings := {
      answer := fun q => (farAway q).answer, environment := [], depth := 985 }
    (∀ q, s.answer q = (farAway q).answer) ∧
      Makes s ⟨[], []⟩ (author c "." (.text "HEAD")) [c.request "." (Client.authorArguments "HEAD")]
        (.error (.instant .tooManySeconds)) := by
  intro c s
  have hs : ∀ q, s.answer q = (farAway q).answer := fun q => rfl
  obtain ⟨result, hmakes, -, hescapes⟩ := makes_author_iff c ⟨[], []⟩ "." "HEAD" hs
  have hline : IsAuthorLine (Text.strip "Jane Doe|jane@example.com|99999999999999999999\n")
      "Jane Doe" "jane@example.com" "99999999999999999999" := by decide
  have hread : Numeral.read "99999999999999999999" = .ok 99999999999999999999 := by rfl
  obtain ⟨rfl, -⟩ := (hescapes _).2 (.seconds hline hread (by decide))
  exact ⟨hs, hmakes⟩

end Git

end ChangeFeed
