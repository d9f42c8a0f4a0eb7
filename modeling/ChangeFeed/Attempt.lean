/-!
Steps that change a state and may fail.

A step that fails leaves a state as well: what it has done before it failed stays done.
-/

namespace ChangeFeed

/-- Steps on a state that may fail. -/
abbrev Attempt (σ ε : Type) := ExceptT ε (StateM σ)

namespace Attempt

variable {σ ε ε' α β : Type}

/-- What a step comes to, and the state that it leaves. -/
def exec (m : Attempt σ ε α) (s : σ) : Except ε α × σ := m.run.run s

/-- What has been decided. -/
def ofExcept (toFailure : ε → ε') : Except ε α → Attempt σ ε' α
  | .ok a => pure a
  | .error e => throw (toFailure e)

@[simp]
theorem exec_pure (a : α) (s : σ) : exec (pure a : Attempt σ ε α) s = (.ok a, s) := rfl

@[simp]
theorem exec_throw (e : ε) (s : σ) : exec (throw e : Attempt σ ε α) s = (.error e, s) := rfl

@[simp]
theorem exec_get (s : σ) : exec (get : Attempt σ ε σ) s = (.ok s, s) := rfl

@[simp]
theorem exec_modify (f : σ → σ) (s : σ) : exec (modify f : Attempt σ ε PUnit) s = (.ok ⟨⟩, f s) :=
  rfl

@[simp]
theorem exec_ofExcept (toFailure : ε → ε') (x : Except ε α) (s : σ) :
    exec (ofExcept toFailure x) s = (x.mapError toFailure, s) := by
  cases x <;> rfl

/-- A failure that is told in other words leaves the same state. -/
theorem exec_adapt (toFailure : ε → ε') (m : Attempt σ ε α) (s : σ) :
    exec (ExceptT.adapt toFailure m : Attempt σ ε' α) s =
      ((m.exec s).1.mapError toFailure, (m.exec s).2) := by
  unfold exec
  change (match m.run.run s with | (x, s') => (x.mapError toFailure, s')) = _
  rcases m.run.run s with ⟨e | a, s'⟩ <;> rfl

theorem exec_bind (m : Attempt σ ε α) (k : α → Attempt σ ε β) (s : σ) :
    (m >>= k).exec s = match m.exec s with
      | (.ok a, s') => (k a).exec s'
      | (.error e, s') => (.error e, s') := by
  unfold exec
  simp only [ExceptT.run_bind, StateT.run_bind]
  change (match m.run.run s with | (x, s') => _) = _
  rcases m.run.run s with ⟨e | a, s'⟩ <;> rfl

/-- What stands behind is done only if what stands in front succeeds. -/
theorem exec_forM_append (f : α → Attempt σ ε PUnit) (front back : List α) (s : σ) :
    ((front ++ back).forM f).exec s = match (front.forM f).exec s with
      | (.ok _, s') => (back.forM f).exec s'
      | (.error e, s') => (.error e, s') := by
  induction front generalizing s with
  | nil => rfl
  | cons a front ih =>
    simp only [List.cons_append, List.forM_eq_forM, List.forM_cons, exec_bind] at ih ⊢
    rcases (f a).exec s with ⟨e | u, s'⟩
    · rfl
    · exact ih s'

end Attempt

end ChangeFeed
