import ChangeFeed.Proofs.Analyzer.FailFast
import ChangeFeed.Proofs.CommandLine.Quiet

/-!
# What the command for events prints

Until the batch has been collected nothing is printed (`Analyzer.yields_collect`). One document is
printed as a whole or not at all. Lines are printed one by one, and a line with a half of a
character cannot be printed, so the lines in front of the first such event are there when the
command fails (`exec_printBatch`). A failure ends the command with an exit code of its kind and one
error (`exec_settle`). `run_events` puts these together: all of the batch or nothing is printed
exactly if no event with a half stands behind one without.
-/

namespace ChangeFeed.CommandLine

open Report (IsLineOf errorEntries)

variable {s : Surroundings} {t : Trace} {target : Target} {style : EventStyle} {references : Bool}
  {b : Batch} {f : Failure}

/-! ### Batches -/

theorem exec_print_ofText (text : Text) : (Run.print (CodePoints.ofText text)).exec s t =
    (.ok (), { t with printed := t.printed ++ text }) := by
  change (Run.ofExcept Failure.unencodable (CodePoints.ofText text).encode >>= _).exec s t = _
  rw [CodePoints.encode_ofText]
  rfl

theorem exec_print_of_error {ps : CodePoints} {p : CodePoints.Unencodable}
    (h : ps.encode = .error p) : (Run.print ps).exec s t = (.error (.unencodable p), t) := by
  change (Run.ofExcept Failure.unencodable ps.encode >>= _).exec s t = _
  rw [h]
  rfl

/-- The batch of a commit. -/
def gather (target : Target) (references : Bool) : Run Batch := do
  let a ← analyzer references
  a.collect target.repository (.text target.revision)

theorem yields_gather (target : Target) (references : Bool) :
    (gather target references).Yields fun b => ∀ e ∈ b.events, e.IsSpelled :=
  .bind (isQuiet_analyzer references) fun a => a.yields_collect _ _

theorem exec_events (target : Target) (style : EventStyle) (references : Bool) (s : Surroundings)
    (t : Trace) : (carryOut (.events target style references)).exec s t =
      (gather target references >>= printBatch style).exec s t := by
  simp only [carryOut, gather, Run.exec_bind]
  rcases (analyzer references).exec s t with ⟨f | a, t'⟩ <;> rfl

/-- An event in a line of its own. -/
def eventLine (e : Event) : Text := Json.shown {} (.table e.entries) ++ ['\n']

theorem points_eq_eventLine {e : Event} (h : e.IsText) :
    e.points = CodePoints.ofText (eventLine e) := by
  have hpoints : Json.points {} (.table e.entries) =
      CodePoints.ofText (Json.shown {} (.table e.entries)) :=
    Json.valueIn_raw_of_readable (h.readable 0) {} 0
  rw [Event.points, eventLine, CodePoints.ofText_append, hpoints]
  rfl

/-- The events in front of the first one in which a half of a character stands. -/
def printable (es : List Event) : List Event := es.takeWhile fun e => !e.isBroken

/-- The text is all of a batch: a line for each event, or one document, from which the batch is read
again if its subscriptions are texts too. -/
inductive IsWhole (style : EventStyle) (b : Batch) : Text → Prop
  | lines : style.byLine = true → (∀ e ∈ b.events, e.isBroken = false) →
      (∀ e ∈ b.events, IsLineOf 1 (.table e.entries) (eventLine e)) →
      IsWhole style b (b.events.flatMap eventLine)
  | document {text : Text} : style.byLine = false →
      Report.batch (style.indent.map .spaces) b = .ok (CodePoints.ofText text) →
      ((∀ x ∈ b.subscriptions, x.IsText) →
        ∀ limit ≥ 4, Json.read limit text = .ok (.table b.entries)) →
      IsWhole style b text

/-- The failure keeps a batch from being printed to its end: its document cannot be written or
encoded, or one of its lines cannot be encoded. -/
inductive Spoils (style : EventStyle) (b : Batch) : Failure → Prop
  | unwritable {f : Failure} : style.byLine = false →
      Report.batch (style.indent.map .spaces) b = .error f → Spoils style b f
  | document {ps : CodePoints} {p : CodePoints.Unencodable} : style.byLine = false →
      Report.batch (style.indent.map .spaces) b = .ok ps → ps.encode = .error p →
      Spoils style b (.unencodable p)
  | line {e : Event} {p : CodePoints.Unencodable} {back : List Event} : style.byLine = true →
      b.events = printable b.events ++ e :: back → e.points.encode = .error p →
      Spoils style b (.unencodable p)

/-- What is printed of a batch before it turns out that it cannot be printed to its end. -/
def printedBefore (style : EventStyle) (b : Batch) : Text :=
  if style.byLine then (printable b.events).flatMap eventLine else []

theorem exec_printRows_cons {e : Event} (h : e.IsSpelled) (columns : List Value)
    (es : List Event) :
    (e.isBroken = false →
      (printRows false columns ((e :: es).map Event.entries)).exec s t =
        (printRows false columns (es.map Event.entries)).exec s
          { t with printed := t.printed ++ eventLine e }) ∧
    (e.isBroken = true → ∃ p, e.points.encode = .error p ∧
      (printRows false columns ((e :: es).map Event.entries)).exec s t =
        (.error (.unencodable p), t)) := by
  have hexec : (printRows false columns ((e :: es).map Event.entries)).exec s t =
      (Run.ofExcept id (Report.line e.entries) >>= Run.print >>= fun _ =>
        printRows false columns (es.map Event.entries)).exec s t := rfl
  rw [hexec, h.line_eq_ok]
  have hfirst : (Run.ofExcept id (.ok e.points) >>= Run.print).exec s t =
      (Run.print e.points).exec s t := rfl
  constructor
  · intro hb
    rw [Run.exec_bind, hfirst, points_eq_eventLine (h.isText hb), exec_print_ofText]
  · intro hb
    rw [← Event.isBroken_points] at hb
    obtain ⟨p, hp⟩ := CodePoints.exists_encodeFrom_eq_error hb 0
    exact ⟨p, hp, by rw [Run.exec_bind, hfirst, exec_print_of_error hp]⟩

/-- Lines of events are printed to the last one, or to the first one in which a half stands. -/
theorem exec_printRows (columns : List Value) {es : List Event} (h : ∀ e ∈ es, e.IsSpelled) :
    ((∀ e ∈ es, e.isBroken = false) ∧ (printRows false columns (es.map Event.entries)).exec s t =
      (.ok (), { t with printed := t.printed ++ es.flatMap eventLine })) ∨
    ∃ e p back, es = printable es ++ e :: back ∧ e.points.encode = .error p ∧
      (printRows false columns (es.map Event.entries)).exec s t =
        (.error (.unencodable p),
          { t with printed := t.printed ++ (printable es).flatMap eventLine }) := by
  induction es generalizing t with
  | nil =>
    refine .inl ⟨List.forall_mem_nil _, ?_⟩
    simp only [List.map_nil, List.flatMap_nil, List.append_nil]
    rfl
  | cons e es ih =>
    obtain ⟨he, hes⟩ := List.forall_mem_cons.1 h
    cases hb : e.isBroken with
    | false =>
      have hprintable : printable (e :: es) = e :: printable es :=
        List.takeWhile_cons_of_pos (by rw [hb]; rfl)
      rw [(exec_printRows_cons he columns es).1 hb, hprintable]
      rcases ih hes with ⟨hall, hexec⟩ | ⟨e', p, back, heq, hp, hexec⟩
      · refine .inl ⟨List.forall_mem_cons.2 ⟨hb, hall⟩, ?_⟩
        rw [hexec, List.flatMap_cons, List.append_assoc]
      · refine .inr ⟨e', p, back, congrArg (e :: ·) heq, hp, ?_⟩
        rw [hexec, List.flatMap_cons, List.append_assoc]
    | true =>
      have hprintable : printable (e :: es) = [] :=
        List.takeWhile_cons_of_neg (by rw [hb]; exact Bool.false_ne_true)
      obtain ⟨p, hp, hexec⟩ := (exec_printRows_cons (s := s) (t := t) he columns es).2 hb
      refine .inr ⟨e, p, es, by rw [hprintable, List.nil_append], hp, ?_⟩
      rw [hexec, hprintable, List.flatMap_nil, List.append_nil]

/-- A batch is printed as a whole, or up to what cannot be printed. -/
theorem exec_printBatch (hp : style.pretty = false) (hb : ∀ e ∈ b.events, e.IsSpelled) :
    (∃ text, IsWhole style b text ∧
      (printBatch style b).exec s t = (.ok (), { t with printed := t.printed ++ text })) ∨
    ∃ f, Spoils style b f ∧ (printBatch style b).exec s t =
      (.error f, { t with printed := t.printed ++ printedBefore style b }) := by
  unfold printBatch printedBefore
  rw [hp, Bool.false_or]
  cases hl : style.byLine with
  | true =>
    rcases exec_printRows eventColumns hb with ⟨hall, hexec⟩ | ⟨e, p, back, heq, hbroken, hexec⟩
    · refine .inl ⟨_, .lines hl hall fun e he => ?_, hexec⟩
      exact Report.isLineOf_shown (((hb e he).isText (hall e he)).readable 0)
    · exact .inr ⟨_, .line hl heq hbroken, hexec⟩
  | false =>
    rw [if_neg Bool.false_ne_true, if_neg Bool.false_ne_true, List.append_nil]
    cases hbatch : Report.batch (style.indent.map .spaces) b with
    | error f => exact .inr ⟨f, .unwritable hl hbatch, rfl⟩
    | ok ps =>
      cases hencode : ps.encode with
      | error p => exact .inr ⟨_, .document hl hbatch hencode, exec_print_of_error hencode⟩
      | ok text =>
        obtain rfl := CodePoints.encode_eq_ok_iff.1 hencode
        refine .inl ⟨text, .document hl hbatch fun hs => ?_, exec_print_ofText text⟩
        exact Report.read_of_batch hb hs hbatch

/-! ### Failures -/

/-- The exit code that a failure ends a command with, and the entries of the error it reports. -/
inductive Ends : Failure → Int → Table → Prop
  | interrupted : Ends (.program .interrupted) 130
      (errorEntries "Interrupted by user" "interrupted" .null)
  | declared {f : Failure} {code : Int} :
      ExitCode.declared.lookup (String.ofList f.kind) = some code →
      Ends f code (errorEntries f.message f.kind (.table [("exit_code", .int code)]))
  | other {f : Failure} : f ≠ .program .interrupted → ExitCode.isDeclared f.kind = false →
      Ends f ((ExitCode.others.lookup (String.ofList f.kind)).getD 1)
        (errorEntries (.text ("Command failed: " ++ f.message)) f.kind .null)

/-- The outcome is an exit code that is not that of success, with one error in one line. -/
inductive Tells (f : Failure) : Outcome → Prop
  | error {code : Int} {entries : Table} {report : Text} : Ends f code entries → code ≠ 0 →
      IsLineOf 2 (.table entries) report → Tells f (.ended code report)

theorem Tells.of_interrupted {o : Outcome} (h : Tells (.program .interrupted) o) :
    ∃ report, o = .ended 130 report ∧
      IsLineOf 2 (.table (errorEntries "Interrupted by user" "interrupted" .null)) report := by
  have hkind : ExitCode.declared.lookup (String.ofList (Failure.program .interrupted).kind) =
      none := by decide
  obtain ⟨hends, -, hline⟩ := h
  cases hends with
  | interrupted => exact ⟨_, rfl, hline⟩
  | declared hd =>
    rw [hkind] at hd
    cases hd
  | other hi _ => exact absurd rfl hi

theorem Tells.of_unencodable {p : CodePoints.Unencodable} {o : Outcome}
    (h : Tells (.unencodable p) o) : ∃ report, o = .ended 1 report ∧
      IsLineOf 2 (.table (errorEntries (.text ("Command failed: " ++ p.message))
        "UnicodeEncodeError" .null)) report := by
  have hkind : ExitCode.declared.lookup (String.ofList (Failure.unencodable p).kind) = none := by
    change ExitCode.declared.lookup (String.ofList "UnicodeEncodeError".toList) = none
    decide
  obtain ⟨hends, -, hline⟩ := h
  cases hends with
  | declared hd =>
    rw [hkind] at hd
    cases hd
  | other _ _ => exact ⟨_, rfl, hline⟩

theorem mem_of_lookup {kind : String} {code : Int} {codes : List (String × Int)}
    (h : codes.lookup kind = some code) : (kind, code) ∈ codes := by
  obtain ⟨front, back, rfl, -⟩ := List.lookup_eq_some_iff.1 h
  exact List.mem_append_right front List.mem_cons_self

theorem exitCode_of_declared {code : Int}
    (h : ExitCode.declared.lookup (String.ofList f.kind) = some code) : f.exitCode = code := by
  rw [Failure.exitCode, ExitCode.ofKind, List.lookup_append, h, Option.some_or, Option.getD_some]

theorem exitCode_of_other (h : ExitCode.declared.lookup (String.ofList f.kind) = none) :
    f.exitCode = (ExitCode.others.lookup (String.ofList f.kind)).getD 1 := by
  rw [Failure.exitCode, ExitCode.ofKind, List.lookup_append, h, Option.none_or, ExitCode.general]

theorem exitCode_ne_zero (f : Failure) : f.exitCode ≠ 0 := by
  have hall : ∀ p ∈ ExitCode.declared ++ ExitCode.others, p.2 ≠ 0 := by decide
  rw [Failure.exitCode, ExitCode.ofKind]
  cases h : (ExitCode.declared ++ ExitCode.others).lookup (String.ofList f.kind) with
  | none => decide
  | some code => exact hall _ (mem_of_lookup h)

theorem tells_ofFailure (f : Failure) : Tells f (.ofFailure f) := by
  unfold Outcome.ofFailure
  split
  · next h =>
    subst h
    exact .error .interrupted (by decide) (Report.isLineOf_error _ _ .null)
  next hi =>
  cases hd : ExitCode.declared.lookup (String.ofList f.kind) with
  | some code =>
    have hfits : ∀ p ∈ ExitCode.declared, Numeral.fits p.2 = true := by decide +kernel
    have hcode : Json.Readable 1 (.table [("exit_code", .int code)]) :=
      .table (by simp [Table.keys]) (by simp)
        (List.forall_mem_singleton.2 (.int (hfits (_, code) (mem_of_lookup hd))))
    have hne := exitCode_ne_zero f
    rw [exitCode_of_declared hd] at hne ⊢
    rw [ExitCode.isDeclared, hd, if_pos Option.isSome_some]
    exact .error (.declared hd) hne (Report.isLineOf_error _ _ hcode)
  | none =>
    have hdeclared : ExitCode.isDeclared f.kind = false := by rw [ExitCode.isDeclared, hd]; rfl
    have hne := exitCode_ne_zero f
    rw [exitCode_of_other hd] at hne ⊢
    rw [hdeclared, if_neg Bool.false_ne_true]
    exact .error (.other hi hdeclared) hne (Report.isLineOf_error _ _ .null)

/-- A failure of a command about a commit is told, and nothing else is done but for the log. -/
theorem exec_settle {c : Command} (hc : c.readsRepository = true) (f : Failure)
    (s : Surroundings) (t : Trace) :
    ∃ t', (settle c f).exec s t = (.ok (.ofFailure f), t') ∧ t'.printed = t.printed ∧
      t'.requests = t.requests := by
  unfold settle
  rw [if_pos hc]
  dsimp only
  split
  · refine ⟨_, rfl, ?_, ?_⟩ <;> (dsimp only; split <;> rfl)
  · exact ⟨t, rfl, rfl, rfl⟩

/-! ### The command -/

section
variable {c : Command} {t' : Trace}

theorem exec_perform (c : Command) (s : Surroundings) (t : Trace) :
    (perform c).exec s t = match (carryOut c).exec s t with
      | (.ok (), t') => (.ok (.ended 0 []), t')
      | (.error f, t') => (settle c f).exec s t' := by
  rw [perform, Run.exec_tryCatch, Run.exec_bind]
  rcases (carryOut c).exec s t with ⟨f | u, t'⟩ <;> rfl

theorem exec_perform_of_ok (h : (carryOut c).exec s t = (.ok (), t')) :
    (perform c).exec s t = (.ok (.ended 0 []), t') := by
  rw [exec_perform, h]

theorem exec_perform_of_error (hr : c.readsRepository = true)
    (h : (carryOut c).exec s t = (.error f, t')) :
    ∃ t'', (perform c).exec s t = (.ok (.ofFailure f), t'') ∧ t''.printed = t'.printed ∧
      t''.requests = t'.requests := by
  rw [exec_perform, h]
  exact exec_settle hr f s t'

end

/-- How the command for events goes: from what was gathered to its outcome and to what it prints. -/
inductive Course (style : EventStyle) : Except Failure Batch → Outcome → Text → Prop
  /-- All of the batch is printed. -/
  | whole {b : Batch} {text : Text} : IsWhole style b text →
      Course style (.ok b) (.ended 0 []) text
  /-- There is no batch, and one failure is told about. -/
  | missing {f : Failure} {o : Outcome} : Tells f o → Course style (.error f) o []
  /-- The batch cannot be printed to its end, and that failure is told about. -/
  | spoiled {b : Batch} {f : Failure} {o : Outcome} : Spoils style b f → Tells f o →
      Course style (.ok b) o (printedBefore style b)

/-- A batch of lines that is printed up to an event with a half: there are events in front of it. -/
def IsTorn (style : EventStyle) (b : Batch) : Prop :=
  style.byLine = true ∧ printable b.events ≠ [] ∧ ∃ e ∈ b.events, e.isBroken = true

theorem printedBefore_eq_nil_iff :
    printedBefore style b = [] ↔ style.byLine = false ∨ printable b.events = [] := by
  unfold printedBefore
  cases style.byLine with
  | false => exact iff_of_true rfl (.inl rfl)
  | true =>
    have hne : ∀ e, eventLine e ≠ [] := fun e => List.append_ne_nil_of_right_ne_nil _ nofun
    cases printable b.events with
    | nil => exact iff_of_true rfl (.inr rfl)
    | cons e es =>
      refine iff_of_false (fun h => hne e (List.append_eq_nil_iff.1 h).1) ?_
      rintro (h | h) <;> cases h

theorem Spoils.isTorn_iff (h : Spoils style b f) : IsTorn style b ↔ printedBefore style b ≠ [] := by
  rw [ne_eq, printedBefore_eq_nil_iff, not_or, IsTorn]
  cases h with
  | unwritable hl _ =>
    rw [hl]
    exact iff_of_false (fun h => Bool.false_ne_true h.1) fun h => h.1 rfl
  | document hl _ _ =>
    rw [hl]
    exact iff_of_false (fun h => Bool.false_ne_true h.1) fun h => h.1 rfl
  | @line e p back hl heq hp =>
    have hmem : e ∈ b.events := by
      rw [heq]
      exact List.mem_append_right _ List.mem_cons_self
    have hbroken : e.isBroken = true := by
      rw [← Event.isBroken_points]
      by_contra hne
      rw [← CodePoints.ofText_chars (eq_false_of_ne_true hne), CodePoints.encode_ofText] at hp
      cases hp
    rw [hl]
    exact ⟨fun h => ⟨Bool.false_ne_true.symm, h.2.1⟩, fun h => ⟨rfl, h.2, e, hmem, hbroken⟩⟩

/-- The whole batch is printed or nothing, unless the batch is torn. -/
theorem Course.all_or_nothing {x : Except Failure Batch} {o : Outcome} {text : Text}
    (h : Course style x o text) :
    o = .ended 0 [] ∨ text = [] ↔ ¬∃ b, x = .ok b ∧ IsTorn style b := by
  cases h with
  | missing htold =>
    refine iff_of_true (.inr rfl) ?_
    rintro ⟨b, hb, -⟩
    cases hb
  | @whole b text hwhole =>
    refine iff_of_true (.inl rfl) ?_
    rintro ⟨_, hb, hl, -, e, he, hbroken⟩
    obtain rfl := Except.ok.inj hb
    cases hwhole with
    | lines _ hall _ =>
      rw [hall e he] at hbroken
      cases hbroken
    | document hdocument _ _ =>
      rw [hl] at hdocument
      cases hdocument
  | @spoiled b f o hspoils htold =>
    have ho : o ≠ .ended 0 [] := by
      obtain ⟨-, hcode, -⟩ := htold
      rintro ⟨⟩
      exact hcode rfl
    rw [or_iff_right ho, ← not_ne_iff, ← hspoils.isTorn_iff]
    refine not_congr ⟨fun htorn => ⟨b, rfl, htorn⟩, ?_⟩
    rintro ⟨_, hb, htorn⟩
    obtain rfl := Except.ok.inj hb
    exact htorn

/-- The command for events either has printed all of the batch that was gathered, and ends with the
code of success and without a report; or it tells about one failure, and has printed nothing or the
lines in front of the first event in which a half of a character stands. It has printed all or
nothing exactly if there is no such event behind another one. If the user has broken off a program
that it has asked for, it has printed nothing and ends with the code of an interrupt. -/
theorem run_events (hp : style.pretty = false) (s : Surroundings) (t : Trace) :
    ∃ o t' text, (perform (.events target style references)).exec s t = (.ok o, t') ∧
      t'.printed = t.printed ++ text ∧
      Course style ((gather target references).exec s t).1 o text ∧
      (o = .ended 0 [] ∨ text = [] ↔
        ¬∃ b, ((gather target references).exec s t).1 = .ok b ∧ IsTorn style b) ∧
      ∃ asked, t'.requests = t.requests ++ asked ∧
        ∀ q ∈ asked, s.answer q = .interrupted → text = [] ∧ ∃ report, o = .ended 130 report := by
  have hgather := yields_gather target references s t
  have hcarry := exec_events target style references s t
  rw [Run.exec_bind] at hcarry
  cases hg : (gather target references).exec s t with
  | mk x t₁ =>
    rw [hg] at hgather hcarry
    obtain ⟨hprinted, hspelled, asked, hasked, hinterrupted⟩ := hgather
    cases x with
    | error f =>
      obtain ⟨t', hrun, hprinted', hrequests⟩ := exec_perform_of_error rfl hcarry
      have hcourse : Course style (.error f) (.ofFailure f) [] := .missing (tells_ofFailure f)
      refine ⟨_, t', [], hrun, ?_, hcourse, hcourse.all_or_nothing, asked,
        hrequests.trans hasked, fun q hq hi => ⟨rfl, ?_⟩⟩
      · rw [hprinted', hprinted, List.append_nil]
      · obtain rfl := Except.error.inj (hinterrupted q hq hi)
        obtain ⟨report, hreport, -⟩ := (tells_ofFailure (.program .interrupted)).of_interrupted
        exact ⟨report, hreport⟩
    | ok b =>
      -- nothing that was asked for has been broken off
      have hnone : ∀ q ∈ asked, s.answer q ≠ .interrupted := fun q hq hi =>
        nomatch hinterrupted q hq hi
      rcases exec_printBatch hp (hspelled b rfl) with ⟨text, hwhole, hprint⟩ | ⟨f, hspoils, hprint⟩
      · have hcourse : Course style (.ok b) (.ended 0 []) text := .whole hwhole
        refine ⟨_, _, text, exec_perform_of_ok (hcarry.trans hprint), ?_, hcourse,
          hcourse.all_or_nothing, asked, hasked, fun q hq hi => absurd hi (hnone q hq)⟩
        rw [hprinted]
      · obtain ⟨t', hrun, hprinted', hrequests⟩ :=
          exec_perform_of_error rfl (hcarry.trans hprint)
        have hcourse : Course style (.ok b) (.ofFailure f) (printedBefore style b) :=
          .spoiled hspoils (tells_ofFailure f)
        refine ⟨_, t', _, hrun, ?_, hcourse, hcourse.all_or_nothing, asked,
          hrequests.trans hasked, fun q hq hi => absurd hi (hnone q hq)⟩
        rw [hprinted', hprinted]

/-- The files around a repository with the touched file. -/
def present : Trace where
  files := ⟨[(["repo".toList, "a.go".toList], .file [])], []⟩

/-- A commit changes two definitions, of which the second one has half a character for a name. -/
def halfNamed (r : Program.Request) : Program.Outcome :=
  let stdout : Text := match r.command with
    | .list (_ :: .text word :: _) =>
      if word = "show".toList then "diff --git a/a.go b/a.go\n@@ -0,0 +1,2 @@\n+x\n+y"
      else if word = "rev-parse".toList then "4b825dc\n"
      else if word = "log".toList then "Jane Doe|jane@example.com|1705314600\n"
      else if word = "remote".toList then
        "Fetch URL: git@github.com:acme/app.git\nHEAD branch: main"
      else Text.ofLines [
        "\x7b\"_type\": \"tag\", \"name\": \"Foo\", \"path\": \"a.go\", \"line\": 1\x7d",
        "\x7b\"_type\": \"tag\", \"name\": \"\\ud800\", \"path\": \"a.go\", \"line\": 2\x7d"]
    | _ => []
  .finished (some stdout) none 0

/-- The system with these answers. -/
def halfNamedSystem : Surroundings where
  answer r := (halfNamed r).answer
  environment := [("HOME", "/root")]
  depth := 985

/-- The tags of the two definitions. -/
def halfNamedTags : List Tag := [
  { file := .text "a.go", name := .text "Foo", line := 1 },
  { file := .text "a.go", name := .broken ⟨[.half 0], rfl⟩, line := 2 }]

theorem build_halfNamed {diff : Text} {hs : List Hunk} (hread : Diff.parse diff = .ok hs)
    (hhs : hs = [⟨.text "a.go", 0, -1, 1, 2, [], [⟨2, "x"⟩, ⟨3, "y"⟩]⟩]) :
    (Analyzer.default.build diff halfNamedTags .byJane).toOption.map
      (·.events.map Event.isBroken) = some [false, true] := by
  have hkeys : ∀ t ∈ halfNamedTags, t.file.isKey := by decide
  have hsorted : SymbolIndex.sortByLine halfNamedTags = halfNamedTags :=
    List.mergeSort_of_pairwise (by decide)
  have hchanged : SymbolIndex.changed ⟨halfNamedTags⟩ hs = halfNamedTags := by
    subst hhs
    decide +kernel
  have hreferences : Analyzer.default.scanner.scan hs = [] := by
    subst hhs
    decide +kernel
  have hfindings : Analyzer.default.findings halfNamedTags hs =
      ⟨hs, halfNamedTags.length, halfNamedTags, []⟩ := by
    rw [Analyzer.findings, hsorted, hchanged, hreferences]
    rfl
  rw [Analyzer.build, Analyzer.examine_eq_ok hread hkeys, hfindings]
  change (Batch.assemble .byJane halfNamedTags []).toOption.map _ = _
  decide +kernel

theorem gather_halfNamed :
    ((gather { repository := "/repo" } true).exec halfNamedSystem present).1.toOption.map
      (·.events.map Event.isBroken) = some [false, true] := by
  have hanalyzer : ((analyzer true).exec halfNamedSystem present).1 = .ok .default := by
    decide +kernel
  have hfiles : ((analyzer true).exec halfNamedSystem present).2.files = present.files := by
    decide +kernel
  have hanswer : ∀ q, halfNamedSystem.answer q = (halfNamed q).answer := fun _ => rfl
  have hremote : Analyzer.default.git.remote = .text "origin" := rfl
  have hprogram : Analyzer.default.ctags.program = .text "ctags" := rfl
  have hcollect : ∃ asked x, Analyzer.Course .default halfNamedSystem.depth halfNamed present.files
      "/repo" "HEAD" "origin" "ctags" asked x ∧ Run.Makes halfNamedSystem present.files
        (Analyzer.default.collect "/repo" (.text "HEAD")) (asked.map Question.request) x :=
    Analyzer.makes_collect hanswer hremote hprogram
  obtain ⟨asked, x, hcourse, hmakes⟩ := hcollect
  obtain ⟨t', hexec, -⟩ := hmakes _ hfiles
  have hgather : ((gather { repository := "/repo" } true).exec halfNamedSystem present).1 = x := by
    rw [gather, Run.exec_bind, ← Prod.eta ((analyzer true).exec halfNamedSystem present), hanalyzer]
    exact congrArg Prod.fst hexec
  have hread : Diff.parse "diff --git a/a.go b/a.go\n@@ -0,0 +1,2 @@\n+x\n+y" =
      .ok [⟨.text "a.go", 0, -1, 1, 2, [], [⟨2, "x"⟩, ⟨3, "y"⟩]⟩] := by decide +kernel
  have hheard : Analyzer.Heard .default halfNamed "/repo" "HEAD" "origin" _ .byJane :=
    ⟨by rfl, by decide +kernel⟩
  have hbuilt := hcourse.failFast.built _ _ _ hheard hread fun h hh => by
    obtain rfl := List.mem_singleton.1 hh
    exact ⟨true, rfl⟩
  have htags : Analyzer.default.hearTags 985 halfNamed "/repo" "ctags" ["a.go".toList] =
      .ok halfNamedTags := by decide +kernel
  have hthere : Analyzer.existingFiles present.files "/repo"
      [⟨.text "a.go", 0, -1, 1, 2, [], [⟨2, "x"⟩, ⟨3, "y"⟩]⟩] = ["a.go".toList] := by decide
  have hdepth : halfNamedSystem.depth = 985 := rfl
  rw [hthere, if_neg (List.cons_ne_nil _ _), hdepth, htags] at hbuilt
  simp only [bind, Except.bind] at hbuilt
  rw [hgather, hbuilt]
  exact build_halfNamed hread rfl

/-- The line of the first event has been printed when that of the second one cannot be encoded. -/
theorem run_events_halfNamed :
    let style : EventStyle := { byLine := true }
    let r := (perform (.events { repository := "/repo" } style true)).exec halfNamedSystem present
    style.pretty = false ∧ ∃ e p report, r.1 = .ok (.ended 1 report) ∧
      r.2.printed = eventLine e ∧ IsLineOf 2 (.table (errorEntries
        (.text ("Command failed: " ++ CodePoints.Unencodable.message p)) "UnicodeEncodeError"
          .null))
          report := by
  intro style r
  have hp : style.pretty = false := rfl
  obtain ⟨o, t', text, hrun, hprinted, hcourse, -⟩ := run_events hp halfNamedSystem present
  have hevents := gather_halfNamed
  generalize ((gather { repository := "/repo" } true).exec halfNamedSystem present).1 = x
    at hcourse hevents
  have hlines : ∀ b, x = .ok b → ∃ e e', b.events = [e, e'] ∧ e.isBroken = false ∧
      e'.isBroken = true := by
    rintro b rfl
    obtain ⟨e, _, hb, he, hes⟩ := List.map_eq_cons_iff.1 (Option.some.inj hevents)
    obtain ⟨e', _, rfl, he', hnil⟩ := List.map_eq_cons_iff.1 hes
    exact ⟨e, e', by rw [hb, List.map_eq_nil_iff.1 hnil], he, he'⟩
  rw [show r = (.ok o, t') from hrun, show t'.printed = text from hprinted]
  cases hcourse with
  | missing => cases hevents
  | @whole b text hwhole =>
    obtain ⟨e, e', hb, -, he'⟩ := hlines b rfl
    cases hwhole with
    | lines _ hall _ =>
      rw [hall e' (by rw [hb]; exact .tail _ (.head _))] at he'
      cases he'
    | document hl _ _ => cases hl
  | @spoiled b f o hspoils htold =>
    obtain ⟨e, e', hb, he, he'⟩ := hlines b rfl
    have hprintable : printable b.events = [e] := by
      rw [hb]
      simp [printable, List.takeWhile, he, he']
    cases hspoils with
    | unwritable hl _ => cases hl
    | document hl _ _ => cases hl
    | @line _ p _ _ _ _ =>
      obtain ⟨report, rfl, hline⟩ := htold.of_unencodable
      refine ⟨hp, e, p, report, rfl, ?_, hline⟩
      rw [printedBefore, hprintable, List.flatMap_singleton]
      rfl

end ChangeFeed.CommandLine
