import ChangeFeed.CommandLine.Execution
import ChangeFeed.Proofs.Report.Lines
import ChangeFeed.Proofs.Run

/-!
# Nothing is printed before the batch is there

Reading the configuration, setting up the log and asking git and the tag program print nothing,
whether they succeed or fail, and a program that the user breaks off ends the run (`Quiet`).
`Yields` says this of a run in all surroundings, and of what it returns; the rules follow the steps
of a run, like those of `Makes`. In the end, a batch has been collected, and it is known of its
events that they can be written (`Analyzer.yields_collect`).
-/

namespace ChangeFeed

namespace Run

variable {α β ε : Type} {r : Run α} {k : α → Run β} {post : α → Prop} {s : Surroundings}
  {t t' t'' : Trace} {x : Except Failure α} {y : Except Failure β}

/-- A run from `t` to `t'` with the result `x` has printed nothing, what it has returned satisfies
`post`, and if the user has broken off a program that it has asked for, that is its failure. -/
structure Quiet (post : α → Prop) (s : Surroundings) (t t' : Trace) (x : Except Failure α) :
    Prop where
  printed : t'.printed = t.printed
  returned : ∀ a, x = .ok a → post a
  interrupted : ∃ asked, t'.requests = t.requests ++ asked ∧
    ∀ q ∈ asked, s.answer q = .interrupted → x = .error (.program .interrupted)

/-- The run is quiet whatever surrounds it, and what it returns satisfies `post`. -/
def Yields (r : Run α) (post : α → Prop) : Prop :=
  ∀ s t, Quiet post s t (r.exec s t).2 (r.exec s t).1

/-- The run is quiet. -/
abbrev IsQuiet (r : Run α) : Prop := r.Yields fun _ => True

namespace Quiet

theorem of_requests_eq (hprinted : t'.printed = t.printed) (hrequests : t'.requests = t.requests)
    (h : ∀ a, x = .ok a → post a) : Quiet post s t t' x :=
  ⟨hprinted, h, [], by rw [hrequests, List.append_nil], nofun⟩

theorem error {post : β → Prop} {f : Failure} (h : Quiet (fun _ : α => True) s t t' (.error f)) :
    Quiet post s t t' (.error f) := by
  obtain ⟨asked, hasked, hall⟩ := h.interrupted
  refine ⟨h.printed, nofun, asked, hasked, fun q hq hi => ?_⟩
  rw [Except.error.inj (hall q hq hi)]

/-- After a success, nothing that was asked for has been broken off. -/
theorem trans {post : β → Prop} {a : α} (h : Quiet (fun _ => True) s t t' (.ok a))
    (h' : Quiet post s t' t'' y) : Quiet post s t t'' y := by
  obtain ⟨asked, hasked, hall⟩ := h.interrupted
  obtain ⟨asked', hasked', hall'⟩ := h'.interrupted
  refine ⟨h'.printed.trans h.printed, h'.returned, asked ++ asked', ?_, fun q hq hi => ?_⟩
  · rw [hasked', hasked, List.append_assoc]
  · rcases List.mem_append.1 hq with hq | hq
    · cases hall q hq hi
    · exact hall' q hq hi

theorem mapError {explain : Failure → Failure}
    (hexplain : explain (.program .interrupted) = .program .interrupted) {f : Failure}
    (h : Quiet post s t t' (.error f)) : Quiet post s t t' (.error (explain f)) := by
  obtain ⟨asked, hasked, hall⟩ := h.interrupted
  refine ⟨h.printed, nofun, asked, hasked, fun q hq hi => ?_⟩
  rw [Except.error.inj (hall q hq hi), hexplain]

end Quiet

theorem isQuiet_get : IsQuiet (get : Run Trace) := fun _ _ =>
  .of_requests_eq rfl rfl fun _ _ => trivial

theorem isQuiet_read : IsQuiet (read : Run Surroundings) := fun _ _ =>
  .of_requests_eq rfl rfl fun _ _ => trivial

theorem isQuiet_modify {f : Trace → Trace} (hprinted : ∀ t, (f t).printed = t.printed)
    (hrequests : ∀ t, (f t).requests = t.requests) : IsQuiet (modify f : Run Unit) := fun _ t =>
  .of_requests_eq (hprinted t) (hrequests t) fun _ _ => trivial

theorem isQuiet_log (severity : Logging.Severity) (message : Text) :
    IsQuiet (Run.log severity message) :=
  isQuiet_modify (fun t => by split <;> rfl) fun t => by split <;> rfl

namespace Yields

theorem pure {a : α} (h : post a) : (Pure.pure a : Run α).Yields post := fun _ _ =>
  .of_requests_eq rfl rfl fun _ hb => Except.ok.inj hb ▸ h

theorem throw (f : Failure) : (MonadExcept.throw f : Run α).Yields post := fun _ _ =>
  .of_requests_eq rfl rfl nofun

theorem bind {post : β → Prop} (hr : r.IsQuiet) (hk : ∀ a, (k a).Yields post) :
    (r >>= k).Yields post := by
  intro s t
  have hrun := hr s t
  rw [exec_bind]
  cases hx : r.exec s t with
  | mk x t' =>
    rw [hx] at hrun
    cases x with
    | error f => exact hrun.error
    | ok a => exact hrun.trans (hk a s t')

theorem tryCatch_throw {explain : Failure → Failure} (hr : r.Yields post)
    (hexplain : explain (.program .interrupted) = .program .interrupted) :
    (tryCatch r fun f => MonadExcept.throw (explain f)).Yields post := by
  intro s t
  have hrun := hr s t
  rw [exec_tryCatch]
  cases hx : r.exec s t with
  | mk x t' =>
    rw [hx] at hrun
    cases x with
    | ok a => exact hrun
    | error f => exact hrun.mapError hexplain

theorem ofExcept {toFailure : ε → Failure} {x : Except ε α} (h : ∀ a, x = .ok a → post a) :
    (Run.ofExcept toFailure x).Yields post := by
  cases x with
  | error e => exact throw (toFailure e)
  | ok a => exact pure (h a rfl)

/-- The run that has asked for a program has to fail if the user breaks that off. -/
theorem request {k : Program.Answer → Run β} {post : β → Prop} {q : Program.Request}
    (hk : ∀ answer, (k answer).Yields post)
    (hi : ∀ s t, ((k .interrupted).exec s t).1 = .error (.program .interrupted)) :
    (Run.request q >>= k).Yields post := by
  intro s t
  let t' : Trace := { t with requests := t.requests ++ [q] }
  have hq : (Run.request q).exec s t = (.ok (s.answer q), t') := rfl
  rw [exec_bind, hq]
  have hrest : Quiet post s t' ((k (s.answer q)).exec s t').2 ((k (s.answer q)).exec s t').1 :=
    hk (s.answer q) s t'
  obtain ⟨asked, hasked, hall⟩ := hrest.interrupted
  refine ⟨hrest.printed, hrest.returned, q :: asked, ?_, fun p hp hanswer => ?_⟩
  · exact hasked.trans (List.append_assoc ..)
  · rcases List.mem_cons.1 hp with rfl | hp
    · dsimp only
      rw [hanswer]
      exact hi s t'
    · exact hall p hp hanswer

end Yields

theorem isQuiet_pure (a : α) : IsQuiet (Pure.pure a : Run α) := .pure trivial

theorem isQuiet_ofExcept (toFailure : ε → Failure) (x : Except ε α) :
    IsQuiet (Run.ofExcept toFailure x) := .ofExcept fun _ _ => trivial

theorem isQuiet_forM {f : α → Run Unit} (h : ∀ a, IsQuiet (f a)) (as : List α) :
    IsQuiet (as.forM f) := by
  induction as with
  | nil => exact isQuiet_pure ()
  | cons a as ih => exact .bind (h a) fun _ => ih

end Run

open Run

/-! ### Configuration -/

namespace Config

theorem isQuiet_path : IsQuiet path :=
  .bind isQuiet_read fun _ => .bind isQuiet_get fun _ => isQuiet_ofExcept _ _

theorem isQuiet_load : IsQuiet load := by
  refine .bind isQuiet_path fun p => .bind isQuiet_get fun t => ?_
  refine .bind (isQuiet_ofExcept _ _) fun found => ?_
  have hrest : ∀ v, IsQuiet (do Run.ofExcept id (overrideAll (← read).environment v)) := fun v =>
    .bind isQuiet_read fun _ => isQuiet_ofExcept _ _
  dsimp only
  split
  · refine .bind isQuiet_read fun s => ?_
    split
    · exact .bind (isQuiet_pure _) hrest
    · exact .bind (isQuiet_log .error _) fun _ => .bind (isQuiet_pure _) hrest
  · exact .bind (isQuiet_pure _) hrest

theorem isQuiet_setUpLog (config : Value) : IsQuiet (setUpLog config) := by
  refine .bind (isQuiet_ofExcept _ _) fun logging => .bind (isQuiet_ofExcept _ _) fun level => ?_
  refine .bind (isQuiet_ofExcept _ _) fun name => .bind (isQuiet_ofExcept _ _) fun threshold => ?_
  refine .bind (isQuiet_modify (fun _ => rfl) fun _ => rfl) fun _ => ?_
  refine .bind (isQuiet_ofExcept _ _) fun format => .bind (isQuiet_ofExcept _ _) fun found => ?_
  cases found with
  | none => exact isQuiet_pure ()
  | some format => exact isQuiet_modify (fun _ => rfl) fun _ => rfl

end Config

theorem CommandLine.isQuiet_analyzer (references : Bool) : IsQuiet (analyzer references) := by
  refine .bind Config.isQuiet_load fun config => ?_
  refine .bind (Config.isQuiet_setUpLog config) fun _ => ?_
  have hrest : ∀ v, IsQuiet (Run.ofExcept id (Analyzer.ofConfig v)) := fun v =>
    isQuiet_ofExcept _ _
  dsimp only
  split
  · exact .bind (isQuiet_pure _) hrest
  · exact .bind (isQuiet_ofExcept _ _) hrest

/-! ### Other programs -/

namespace Program

theorem isQuiet_notRun (o : Options) (shown : Text) (p : Problem) :
    IsQuiet (notRun o shown p) := by
  refine .bind (isQuiet_log .error _) fun _ => ?_
  split
  · exact .throw _
  · exact isQuiet_pure _

theorem isQuiet_ended (o : Options) (command : Value) (shown : Text) (stdout stderr code : Value) :
    IsQuiet (ended o command shown stdout stderr code) := by
  have hend : ∀ message, IsQuiet (do
      Run.log .error message
      throw (.program (.exited command code stderr)) : Run (Value × Value)) := fun message =>
    .bind (isQuiet_log .error message) fun _ => .throw _
  unfold ended
  cases o.logErrors with
  | false =>
    cases o.check with
    | false => exact isQuiet_pure _
    | true => exact .throw _
  | true =>
    refine .bind (isQuiet_ofExcept _ _) fun told => ?_
    -- the report goes to the log if there is one
    cases o.check with
    | false =>
      split
      · exact .bind (isQuiet_log .error told) fun _ => isQuiet_pure _
      · exact isQuiet_pure _
    | true =>
      split
      · exact .bind (isQuiet_log .error told) fun _ => hend _
      · exact hend _

/-- A command that has a first word is asked for, and breaking it off ends the run. -/
theorem isQuiet_run (word : Value) (words : List Value) (o : Options) :
    IsQuiet (run (.list (word :: words)) o) := by
  refine .bind (isQuiet_ofExcept _ _) fun texts => .bind (isQuiet_log .debug _) fun _ => ?_
  refine .request (fun answer => .bind (isQuiet_ofExcept _ _) fun _ => ?_) fun s t => rfl
  cases answer with
  | finished stdout stderr code =>
    dsimp only
    split
    · exact isQuiet_pure _
    · exact isQuiet_ended _ _ _ _ _ _
  | timedOut =>
    dsimp only
    split
    · exact isQuiet_notRun _ _ _
    · exact .throw _
  | missing => exact isQuiet_notRun _ _ _
  | forbidden => exact isQuiet_notRun _ _ _
  | refused r => exact .throw _
  | interrupted => exact .throw _

end Program

namespace Git

variable (c : Client) (directory : Text)

theorem isQuiet_ask (arguments : List Value) : IsQuiet (ask c directory arguments) :=
  .bind (.tryCatch_throw (Program.isQuiet_run _ _ _) rfl) fun _ => isQuiet_pure _

theorem isQuiet_askLine (arguments : List Value) : IsQuiet (askLine c directory arguments) :=
  .bind (isQuiet_ask c directory arguments) fun _ =>
    .bind (isQuiet_ofExcept _ _) fun _ => isQuiet_pure _

theorem isQuiet_author (rev : Value) : IsQuiet (author c directory rev) :=
  .bind (isQuiet_askLine c directory _) fun _ => isQuiet_ofExcept _ _

theorem isQuiet_remoteInfo (remote : Value) : IsQuiet (remoteInfo c directory remote) :=
  .bind (isQuiet_ask c directory _) fun _ =>
    .bind (isQuiet_ofExcept _ _) fun _ => isQuiet_ofExcept _ _

theorem isQuiet_commit (rev : Value) : IsQuiet (commit c directory rev) := by
  refine .bind (isQuiet_askLine c directory _) fun hash => ?_
  refine .bind (isQuiet_author c directory rev) fun who => ?_
  refine .bind (isQuiet_remoteInfo c directory .null) fun remote => ?_
  exact .bind (isQuiet_log .debug _) fun _ => isQuiet_pure _

end Git

namespace Ctags

theorem isQuiet_readOutput (format : Format) (output : Value) :
    IsQuiet (readOutput format output) := by
  cases format with
  | json =>
    exact .bind (isQuiet_ofExcept _ _) fun _ => .bind isQuiet_read fun _ => isQuiet_ofExcept _ _
  | etags =>
    refine .bind (isQuiet_ofExcept _ _) fun _ => .bind (isQuiet_ofExcept _ _) fun s => ?_
    exact .bind (isQuiet_forM (isQuiet_log .warning) _) fun _ => isQuiet_pure _

theorem isQuiet_present (directory : Path) (files : List Value) :
    IsQuiet (present directory files) := by
  induction files with
  | nil => exact isQuiet_pure _
  | cons v files ih =>
    cases v with
    | text file =>
      refine .bind isQuiet_get fun t => .bind (isQuiet_ofExcept _ _) fun found => ?_
      split
      · exact .bind ih fun _ => isQuiet_pure _
      · exact .bind (isQuiet_log .debug _) fun _ => ih
    | _ => exact .throw _

theorem isQuiet_extract (c : Client) (directory : Path) (files : List Value) :
    IsQuiet (extract c directory files) := by
  refine .bind (isQuiet_present directory files) fun existing => ?_
  split
  · exact isQuiet_pure _
  · refine .bind (.tryCatch_throw (Program.isQuiet_run _ _ _) rfl) fun out => ?_
    refine .bind (isQuiet_readOutput c.format out.1) fun tags => ?_
    exact .bind (isQuiet_log .debug _) fun _ => isQuiet_pure _

end Ctags

/-! ### The analysis -/

namespace Analyzer

variable (a : Analyzer)

theorem isQuiet_report (found : Findings) : IsQuiet (a.report found) := by
  refine .bind (isQuiet_log .debug _) fun _ => ?_
  dsimp only
  split
  · exact .bind (isQuiet_log .debug _) fun _ => isQuiet_log .debug _
  · exact isQuiet_log .debug _

theorem yields_buildReported (diff : Text) (tags : List Tag) (c : Commit) :
    (a.buildReported diff tags c).Yields fun b => ∀ e ∈ b.events, e.IsSpelled := by
  refine .bind (isQuiet_ofExcept _ _) fun found => .bind (isQuiet_report a found) fun _ => ?_
  exact .ofExcept fun b hb => Batch.isSpelled_of_assemble hb

/-- Nothing is printed while a batch is collected, and what its events say is spelled. -/
theorem yields_collect (directory : Text) (rev : Value) :
    (a.collect directory rev).Yields fun b => ∀ e ∈ b.events, e.IsSpelled := by
  refine .bind (Git.isQuiet_ask a.git directory _) fun diff => ?_
  refine .bind (Git.isQuiet_commit a.git directory rev) fun c => ?_
  refine .bind (isQuiet_ofExcept _ _) fun diff => .bind (isQuiet_ofExcept _ _) fun hs => ?_
  refine .bind (Ctags.isQuiet_extract a.ctags _ _) fun tags => ?_
  exact .bind (isQuiet_log .info _) fun _ => yields_buildReported a diff tags c

end Analyzer

end ChangeFeed
