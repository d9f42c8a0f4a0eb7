import ChangeFeed.Program.Command
import ChangeFeed.Proofs.Run

/-!
# What comes of a command

`Outcome` is an answer as the system gives it: texts, or nothing where nothing was captured, and a
whole number as the code. A client that wants the output of a command sees one of two things,
`Reports.read`: the text, or the failure by which the client reports what has happened instead.
`makes_asking` says so of every client whose failures are those of a `Reports`.
-/

namespace ChangeFeed

namespace Program

/-- What came of the run of a program. -/
inductive Outcome where
  | finished (stdout stderr : Option Text) (code : Int)
  | timedOut
  | missing
  | forbidden
  | interrupted
  deriving DecidableEq, Repr

namespace Outcome

/-- What was captured, or null. -/
def captured (t : Option Text) : Value := t.elim .null .text

def answer : Outcome → Answer
  | finished stdout stderr code => .finished (captured stdout) (captured stderr) (.int code)
  | timedOut => .timedOut
  | missing => .missing
  | forbidden => .forbidden
  | interrupted => .interrupted

/-- What there is to tell of a program that ended with a code other than zero: its own report, or
else how it ended. -/
def detail (command : List Text) (stderr : Option Text) (code : Int) : Text :=
  let report := Text.strip (stderr.getD [])
  if report ≠ [] then report
  else (Problem.exited (.list (command.map .text)) (.int code) .null).message

end Outcome

/-- How a client reports that a command gave no output. -/
structure Reports where
  failed (detail : Text) : Failure
  timedOut : Failure
  notRun (reason : Text) : Failure

namespace Reports

/-- The output of a command, or the failure that its client reports. -/
def read (r : Reports) (command : List Text) (limit : Value) : Outcome → Except Failure Text
  | .finished stdout stderr code =>
    if code = 0 then .ok (stdout.getD [])
    else .error (r.failed (Outcome.detail command stderr code))
  | .timedOut => if limit.fits then .error r.timedOut else .error (.numeral .tooLarge)
  | .missing => .error (r.notRun (Problem.missing (command.headD [])).message)
  | .forbidden => .error (r.notRun (Problem.forbidden (command.headD [])).message)
  | .interrupted => .error (.program .interrupted)

end Reports

theorem reported_captured (stderr : Option Text) :
    reported (Outcome.captured stderr) = .ok (Text.strip (stderr.getD [])) := by
  cases stderr with
  | none => rfl
  | some t =>
    cases t with
    | nil => rfl
    | cons c t => rfl

theorem told_captured (command : List Text) (stderr : Option Text) (code : Int) :
    told (.exited (.list (command.map .text)) (.int code) (Outcome.captured stderr))
      (Outcome.captured stderr) = .ok (Outcome.detail command stderr code) := by
  unfold told Outcome.detail
  rw [reported_captured]
  by_cases h : Text.strip (stderr.getD []) ≠ []
  · simp only [if_pos h]
    change (if _ then _ else _) = _
    rw [if_pos h]
    rfl
  · simp only [if_neg h]
    change (if _ then _ else _) = _
    rw [if_neg h]
    rfl

open Run (Makes)

variable {s : Surroundings} {files : FileTree}

/-- How a command that is run for its output ends. -/
def Outcome.result (command : List Text) (limit : Value) : Outcome → Except Failure (Value × Value)
  | .finished stdout stderr code =>
    if code = 0 then .ok (captured stdout, .int 0)
    else .error (.program (.exited (.list (command.map .text)) (.int code) (captured stderr)))
  | .timedOut =>
    if limit.fits then .error (.program (.timedOut (.list (command.map .text)) limit))
    else .error (.numeral .tooLarge)
  | .missing => .error (.program (.missing (command.headD [])))
  | .forbidden => .error (.program (.forbidden (command.headD [])))
  | .interrupted => .error (.program .interrupted)

theorem makes_notRun {o : Options} (hcheck : o.check = true) (shown : Text) (p : Problem) :
    Makes s files (notRun o shown p) [] (.error (.program p)) := by
  unfold notRun
  rw [hcheck]
  exact (Makes.log .error _).after (Makes.throw _)

theorem makes_ended {o : Options} (hcheck : o.check = true) (command : Value) (shown : Text)
    (stdout code : Value) (stderr : Option Text) :
    Makes s files (ended o command shown stdout (Outcome.captured stderr) code) []
      (.error (.program (.exited command code (Outcome.captured stderr)))) := by
  unfold ended
  rw [hcheck, reported_captured]
  cases o.logErrors with
  | false => exact Makes.throw _
  | true =>
    have hend : ∀ message, Makes s files
        (do
          Run.log .error message
          throw (.program (.exited command code (Outcome.captured stderr)))
          : Run (Value × Value)) []
        (.error (.program (.exited command code (Outcome.captured stderr)))) := fun message =>
      (Makes.log .error message).after (Makes.throw _)
    refine (Makes.ofExcept Failure.misuse (.ok (Text.strip (stderr.getD [])))).after ?_
    -- the report goes to the log if there is one
    split
    · exact (Makes.log .error _).after (hend _)
    · exact hend _

/-- A command with words is run exactly once, and ends as the system says. -/
theorem makes_run {o : Options} (hcheck : o.check = true) (hcapture : o.capture = true)
    {program : Text} {arguments : List Text} {out : Outcome}
    (hs : s.answer ⟨.list ((program :: arguments).map .text), o.directory, o.limit⟩ = out.answer) :
    Makes s files (run (.list ((program :: arguments).map .text)) o)
      [⟨.list ((program :: arguments).map .text), o.directory, o.limit⟩]
      (out.result (program :: arguments) o.limit) := by
  have hwords : Value.words (.list ((program :: arguments).map .text)) =
      .ok (program :: arguments) := Value.joinable_map_text 0 _
  unfold run
  rw [hwords]
  refine (Makes.ofExcept Failure.misuse (.ok (program :: arguments))).after ?_
  refine (Makes.log .debug _).after ?_
  refine (Makes.request _).bind (?_ : Makes _ _ _ [] _)
  rw [hs]
  refine (Makes.ofExcept Failure.misuse (.ok (Value.text program))).after ?_
  cases out with
  | finished stdout stderr code =>
    by_cases hc : code = 0
    · subst hc
      change Makes s files (pure (if o.capture = true then _ else _, _)) [] _
      rw [hcapture]
      exact Makes.pure _
    · have hcode : isSuccess (.int code) = false := by
        simpa [isSuccess] using hc
      simp only [Outcome.answer, hcode, Outcome.result, if_neg hc]
      exact makes_ended hcheck _ _ _ _ stderr
  | timedOut =>
    cases hl : o.limit.fits with
    | false =>
      simp only [Outcome.answer, Outcome.result, hl]
      exact Makes.throw _
    | true =>
      simp only [Outcome.answer, Outcome.result, hl]
      exact makes_notRun hcheck _ _
  | missing => exact makes_notRun hcheck _ _
  | forbidden => exact makes_notRun hcheck _ _
  | interrupted => exact Makes.throw _

/-! ### Clients -/

/-- What a client takes for the output of a program. -/
def given (stdout : Value) : Value := if stdout.isSet then stdout else .text []

theorem given_captured (stdout : Option Text) :
    given (Outcome.captured stdout) = .text (stdout.getD []) := by
  cases stdout with
  | none => rfl
  | some t =>
    cases t with
    | nil => rfl
    | cons c t => rfl

namespace Reports

variable {r : Reports} {explain : Failure → Failure} {command : List Text} {limit : Value}

/-- A client explains what happened to a command by these reports. What it has no report for stays
as it is. -/
structure Explain (r : Reports) (explain : Failure → Failure) (command : List Text)
    (limit : Value) : Prop where
  failed : ∀ stderr code, explain (.program (.exited (.list (command.map .text)) (.int code)
    (Outcome.captured stderr))) = r.failed (Outcome.detail command stderr code)
  timedOut : explain (.program (.timedOut (.list (command.map .text)) limit)) = r.timedOut
  missing : ∀ p, explain (.program (.missing p)) = r.notRun (Problem.missing p).message
  forbidden : ∀ p, explain (.program (.forbidden p)) = r.notRun (Problem.forbidden p).message
  interrupted : explain (.program .interrupted) = .program .interrupted
  tooLarge : explain (.numeral .tooLarge) = .numeral .tooLarge

theorem Explain.read_cases (h : r.Explain explain command limit) (out : Outcome) :
    (∃ stdout, out.result command limit = .ok (Outcome.captured stdout, .int 0) ∧
      r.read command limit out = .ok (stdout.getD [])) ∨
    ∃ f, out.result command limit = .error f ∧ r.read command limit out = .error (explain f) := by
  cases out with
  | finished stdout stderr code =>
    by_cases hc : code = 0
    · subst hc
      exact .inl ⟨stdout, rfl, rfl⟩
    · refine .inr ⟨_, if_neg hc, ?_⟩
      rw [read, if_neg hc, h.failed]
  | timedOut =>
    right
    cases hl : limit.fits with
    | false =>
      refine ⟨.numeral .tooLarge, ?_, ?_⟩
      · simp [Outcome.result, hl]
      · simp [read, hl, h.tooLarge]
    | true =>
      refine ⟨.program (.timedOut (.list (command.map .text)) limit), ?_, ?_⟩
      · simp [Outcome.result, hl]
      · simp [read, hl, h.timedOut]
  | missing => exact .inr ⟨_, rfl, by rw [read, h.missing]⟩
  | forbidden => exact .inr ⟨_, rfl, by rw [read, h.forbidden]⟩
  | interrupted => exact .inr ⟨_, rfl, by rw [read, h.interrupted]⟩

theorem read_eq_ok_iff {out : Outcome} {t : Text} : r.read command limit out = .ok t ↔
    ∃ stdout stderr, out = .finished stdout stderr 0 ∧ stdout.getD [] = t := by
  constructor
  · intro h
    cases out with
    | finished stdout stderr code =>
      rw [read] at h
      split at h
      · next hcode =>
        cases h
        exact ⟨stdout, stderr, by rw [hcode], rfl⟩
      · cases h
    | timedOut =>
      rw [read] at h
      split at h
      · cases h
      · cases h
    | _ => cases h
  · rintro ⟨stdout, stderr, rfl, rfl⟩
    rfl

end Reports

/-- A client has its command run once. It fails with the report of what went wrong, or goes on with
the output. -/
theorem makes_asking {r : Reports} {explain : Failure → Failure} {program : Text}
    {arguments : List Text} {o : Options} (h : r.Explain explain (program :: arguments) o.limit)
    (hcheck : o.check = true) (hcapture : o.capture = true) {out : Outcome}
    (hs : s.answer ⟨.list ((program :: arguments).map .text), o.directory, o.limit⟩ = out.answer)
    {β : Type} {k : Value × Value → Run β} {y : Text → Except Failure β}
    (hk : ∀ v t, given v.1 = .text t → Makes s files (k v) [] (y t)) :
    Makes s files
      (tryCatch (run (.list ((program :: arguments).map .text)) o)
        (fun f => throw (explain f)) >>= k)
      [⟨.list ((program :: arguments).map .text), o.directory, o.limit⟩]
      (r.read (program :: arguments) o.limit out >>= y) := by
  have hrun : Makes s files _ _ ((out.result (program :: arguments) o.limit).mapError explain) :=
    (makes_run hcheck hcapture hs).tryCatch_throw explain
  rcases h.read_cases out with ⟨stdout, hres, hread⟩ | ⟨f, hres, hread⟩
  · rw [hres] at hrun
    rw [hread]
    exact hrun.bind (hk _ _ (given_captured stdout))
  · rw [hres] at hrun
    rw [hread]
    exact hrun.bind_error

end Program

end ChangeFeed
