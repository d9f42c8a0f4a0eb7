import ChangeFeed.Proofs.Outcome
import ChangeFeed.Run

/-!
# What a run asks for and comes to

A run that does not touch any file is known by two things: the requests that it makes, in order, and
its result. `Makes` says both, whatever has been asked for, logged and printed before. The rules
follow the steps of a run; `Makes.bind` puts the requests of its parts one behind the other, and
`Makes.bind_error` stops where a part fails.
-/

namespace ChangeFeed.Run

variable {α β ε : Type} {s : Surroundings} {files : FileTree} {r : Run α} {k : α → Run β}
  {asked asked' : List Program.Request}

/-- In the surroundings `s`, from any trace that has these files, the run adds the requests `asked`
and has the result `x`; the files stay as they are. -/
def Makes (s : Surroundings) (files : FileTree) (r : Run α) (asked : List Program.Request)
    (x : Except Failure α) : Prop :=
  ∀ t : Trace, t.files = files → ∃ t', r.exec s t = (x, t') ∧
    t'.requests = t.requests ++ asked ∧ t'.files = files

theorem exec_bind (r : Run α) (k : α → Run β) (s : Surroundings) (t : Trace) :
    (r >>= k).exec s t = match r.exec s t with
      | (.ok a, t') => (k a).exec s t'
      | (.error f, t') => (.error f, t') := by
  unfold exec
  simp only [ReaderT.run_bind, ExceptT.run_bind, StateT.run_bind]
  change (match (((r.run s).run).run t) with | (x, t') => _) = _
  rcases ((r.run s).run).run t with ⟨f | a, t'⟩ <;> rfl

theorem exec_tryCatch (r : Run α) (handle : Failure → Run α) (s : Surroundings) (t : Trace) :
    (tryCatch r handle).exec s t = match r.exec s t with
      | (.ok a, t') => (.ok a, t')
      | (.error f, t') => (handle f).exec s t' := by
  unfold exec
  change (((tryCatch (r.run s) fun f => (handle f).run s).run).run t) = _
  simp only [ExceptT.run_tryCatch, StateT.run_bind]
  change (match (((r.run s).run).run t) with | (x, t') => _) = _
  rcases ((r.run s).run).run t with ⟨f | a, t'⟩ <;> rfl

namespace Makes

theorem pure (a : α) : Makes s files (Pure.pure a) [] (.ok a) := fun t ht =>
  ⟨t, rfl, (List.append_nil _).symm, ht⟩

theorem throw (f : Failure) :
    Makes s files (MonadExcept.throw f : Run α) [] (.error f) := fun t ht =>
  ⟨t, rfl, (List.append_nil _).symm, ht⟩

theorem bind {a : α} {y : Except Failure β} (h : Makes s files r asked (.ok a))
    (hk : Makes s files (k a) asked' y) : Makes s files (r >>= k) (asked ++ asked') y := by
  intro t ht
  obtain ⟨t₁, h₁, hasked, hfiles⟩ := h t ht
  obtain ⟨t₂, h₂, hasked', hfiles'⟩ := hk t₁ hfiles
  refine ⟨t₂, ?_, ?_, hfiles'⟩
  · rw [exec_bind, h₁]
    exact h₂
  · rw [hasked', hasked, List.append_assoc]

theorem bind_error {f : Failure} (h : Makes s files r asked (.error f)) :
    Makes s files (r >>= k) asked (.error f) := by
  intro t ht
  obtain ⟨t₁, h₁, hasked, hfiles⟩ := h t ht
  refine ⟨t₁, ?_, hasked, hfiles⟩
  rw [exec_bind, h₁]

theorem after {a : α} {y : Except Failure β} (h : Makes s files r [] (.ok a))
    (hk : Makes s files (k a) asked y) : Makes s files (r >>= k) asked y := h.bind hk

theorem andThen {x : Except Failure α} {y : α → Except Failure β} (h : Makes s files r asked x)
    (hk : ∀ a, x = .ok a → Makes s files (k a) [] (y a)) :
    Makes s files (r >>= k) asked (x >>= y) := by
  cases x with
  | error f => exact h.bind_error
  | ok a =>
    have hr : Makes s files (r >>= k) (asked ++ []) (y a) := h.bind (hk a rfl)
    rwa [List.append_nil] at hr

theorem tryCatch_throw {x : Except Failure α} (h : Makes s files r asked x)
    (explain : Failure → Failure) :
    Makes s files (tryCatch r fun f => MonadExcept.throw (explain f)) asked
      (x.mapError explain) := by
  intro t ht
  obtain ⟨t₁, h₁, hasked, hfiles⟩ := h t ht
  refine ⟨t₁, ?_, hasked, hfiles⟩
  rw [exec_tryCatch, h₁]
  cases x with
  | error f => rfl
  | ok a => rfl

theorem log (severity : Logging.Severity) (message : Text) :
    Makes s files (Run.log severity message) [] (.ok ()) := by
  intro t ht
  by_cases h : Logging.effective t.threshold ≤ severity.number
  · refine ⟨{ t with records := t.records ++ [⟨severity, message⟩] }, ?_,
      (List.append_nil _).symm, ht⟩
    change (Except.ok (), if _ then _ else _) = _
    rw [if_pos h]
  · refine ⟨t, ?_, (List.append_nil _).symm, ht⟩
    change (Except.ok (), if _ then _ else _) = _
    rw [if_neg h]

theorem request (q : Program.Request) :
    Makes s files (Run.request q) [q] (.ok (s.answer q)) := fun t ht =>
  ⟨{ t with requests := t.requests ++ [q] }, rfl, rfl, ht⟩

theorem read : Makes s files MonadReader.read [] (.ok s) := fun t ht =>
  ⟨t, rfl, (List.append_nil _).symm, ht⟩

theorem ofExcept (toFailure : ε → Failure) (x : Except ε α) :
    Makes s files (Run.ofExcept toFailure x) [] (x.mapError toFailure) := by
  cases x with
  | ok a => exact pure a
  | error e => exact throw (toFailure e)

theorem ofExcept_id (x : Except Failure α) : Makes s files (Run.ofExcept id x) [] x := by
  have h : Makes s files (Run.ofExcept id x) [] (x.mapError id) := ofExcept id x
  rwa [mapError_id] at h

theorem get {k : Trace → Run β} {y : Except Failure β}
    (hk : ∀ t, t.files = files → Makes s files (k t) asked y) :
    Makes s files (MonadState.get >>= k) asked y := by
  intro t ht
  exact hk t ht t ht

end Makes

end ChangeFeed.Run
