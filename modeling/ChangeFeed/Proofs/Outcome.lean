/-!
# Computations that went well

A computation in steps went well exactly if each of its steps did, and what a problem is turned into
does not matter for that.
-/

namespace ChangeFeed

variable {ε ε' α β : Type}

theorem bind_eq_ok_iff {x : Except ε α} {f : α → Except ε β} {b : β} :
    x >>= f = .ok b ↔ ∃ a, x = .ok a ∧ f a = .ok b := by
  cases x with
  | error e => simp [bind, Except.bind]
  | ok a => simp [bind, Except.bind]

theorem bind_eq_error_iff {x : Except ε α} {f : α → Except ε β} {e : ε} :
    x >>= f = .error e ↔ x = .error e ∨ ∃ a, x = .ok a ∧ f a = .error e := by
  cases x with
  | error e => simp [bind, Except.bind]
  | ok a => simp [bind, Except.bind]

theorem map_eq_ok_iff {x : Except ε α} {f : α → β} {b : β} :
    x.map f = .ok b ↔ ∃ a, x = .ok a ∧ f a = b := by
  cases x with
  | error e => simp [Except.map]
  | ok a => simp [Except.map]

theorem map_eq_error_iff {x : Except ε α} {f : α → β} {e : ε} :
    x.map f = .error e ↔ x = .error e := by
  cases x with
  | error e => simp [Except.map]
  | ok a => simp [Except.map]

theorem mapError_eq_ok_iff {x : Except ε α} {f : ε → ε'} {a : α} :
    x.mapError f = .ok a ↔ x = .ok a := by
  cases x with
  | error e => exact ⟨nofun, nofun⟩
  | ok b => exact ⟨fun h => by cases h; rfl, fun h => by cases h; rfl⟩

theorem bind_ok_eq_map {x : Except ε α} (f : α → β) : (x >>= fun a => .ok (f a)) = x.map f := by
  cases x with
  | error e => rfl
  | ok a => rfl

theorem mapM_eq_ok_map {f : α → Except ε β} {g : α → β} {l : List α}
    (h : ∀ a ∈ l, f a = .ok (g a)) : l.mapM f = .ok (l.map g) := by
  induction l with
  | nil => rfl
  | cons a l ih =>
    obtain ⟨ha, hl⟩ := List.forall_mem_cons.1 h
    rw [List.mapM_cons, ha, ih hl]
    rfl

theorem mapM_eq_ok_map_or {f : α → Except ε β} {g : α → β} {P : ε → Prop} {Q : α → Prop}
    {l : List α} (h : ∀ a ∈ l, f a = .ok (g a) ∧ Q a ∨ ∃ e, f a = .error e ∧ P e) :
    (l.mapM f = .ok (l.map g) ∧ ∀ a ∈ l, Q a) ∨ ∃ e, l.mapM f = .error e ∧ P e := by
  induction l with
  | nil => exact .inl ⟨rfl, nofun⟩
  | cons a l ih =>
    obtain ⟨ha, hl⟩ := List.forall_mem_cons.1 h
    rw [List.mapM_cons]
    rcases ha with ⟨hok, hq⟩ | ⟨e, herror, hp⟩
    · rw [hok]
      rcases ih hl with ⟨hmap, hall⟩ | ⟨e, hmap, hp⟩
      · exact .inl ⟨by rw [hmap]; rfl, List.forall_mem_cons.2 ⟨hq, hall⟩⟩
      · exact .inr ⟨e, by rw [hmap]; rfl, hp⟩
    · exact .inr ⟨e, by rw [herror]; rfl, hp⟩

theorem mapError_id (x : Except ε α) : x.mapError id = x := by
  cases x with
  | error e => rfl
  | ok a => rfl

end ChangeFeed
