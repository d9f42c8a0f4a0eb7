import ChangeFeed.Proofs.Run

/-!
# Questions in turn

A question is a request together with the trouble that its answer makes, if it makes any. Questions
that are asked in turn stop at the first one with trouble: `inTurn` has those that are asked. The
rule `Makes.next` follows a run from one question to the next.
-/

namespace ChangeFeed

/-- A request, and what is wrong with its answer. -/
structure Question where
  request : Program.Request
  trouble? : Option Failure
  deriving DecidableEq, Repr

namespace Question

/-- What is wrong with a result. -/
def failure? {α : Type} : Except Failure α → Option Failure
  | .ok _ => none
  | .error f => some f

/-- A request, of which the answer is read as `x`. -/
def about {α : Type} (r : Program.Request) (x : Except Failure α) : Question := ⟨r, failure? x⟩

theorem failure?_eq_some_iff {α : Type} {x : Except Failure α} {f : Failure} :
    failure? x = some f ↔ x = .error f := by
  cases x with
  | ok a => exact ⟨nofun, nofun⟩
  | error g =>
    exact ⟨fun h => congrArg _ (Option.some.inj h), fun h => congrArg _ (Except.error.inj h)⟩

theorem failure?_eq_none_iff {α : Type} {x : Except Failure α} :
    failure? x = none ↔ ∃ a, x = .ok a := by
  cases x with
  | ok a => exact ⟨fun _ => ⟨a, rfl⟩, fun _ => rfl⟩
  | error g => exact ⟨nofun, nofun⟩

/-- The questions that are asked: all up to the first one with trouble. -/
def inTurn : List Question → List Question
  | [] => []
  | q :: qs => q :: if q.trouble? = none then inTurn qs else []

variable {q : Question} {qs : List Question}

theorem inTurn_about_ok {α : Type} (r : Program.Request) (a : α) (qs : List Question) :
    inTurn (about r (.ok a) :: qs) = about r (Except.ok a) :: inTurn qs := rfl

theorem inTurn_about_error {α : Type} (r : Program.Request) (f : Failure) (qs : List Question) :
    inTurn (about r (.error f : Except Failure α) :: qs) =
      [about r (.error f : Except Failure α)] := rfl

theorem inTurn_singleton (q : Question) : inTurn [q] = [q] := by
  rw [inTurn, inTurn, ite_self]

theorem inTurn_isPrefix (qs : List Question) : inTurn qs <+: qs := by
  induction qs with
  | nil => exact List.prefix_rfl
  | cons q qs ih =>
    rw [inTurn]
    split
    · exact (List.prefix_cons_inj q).2 ih
    · exact (List.prefix_cons_inj q).2 (List.nil_prefix)

theorem inTurn_of_trouble? (h : ∀ q ∈ qs, q.trouble? = none) (more : List Question) :
    inTurn (qs ++ more) = qs ++ inTurn more := by
  induction qs with
  | nil => rfl
  | cons q qs ih =>
    obtain ⟨hq, hqs⟩ := List.forall_mem_cons.1 h
    rw [List.cons_append, inTurn, if_pos hq, ih hqs, List.cons_append]

theorem inTurn_eq_self (h : ∀ q ∈ qs, q.trouble? = none) : inTurn qs = qs := by
  have happend := inTurn_of_trouble? h []
  rwa [List.append_nil, inTurn, List.append_nil] at happend

theorem inTurn_eq_self_of_inTurn (h : ∀ q ∈ inTurn qs, q.trouble? = none) : inTurn qs = qs := by
  induction qs with
  | nil => rfl
  | cons p qs ih =>
    rw [inTurn] at h ⊢
    obtain ⟨hp, hrest⟩ := List.forall_mem_cons.1 h
    rw [if_pos hp] at hrest ⊢
    rw [ih hrest]

theorem trouble?_of_mem_dropLast (h : q ∈ (inTurn qs).dropLast) : q.trouble? = none := by
  induction qs with
  | nil => cases h
  | cons p qs ih =>
    rw [inTurn] at h
    split at h
    · next hp =>
      cases hi : inTurn qs with
      | nil =>
        rw [hi] at h
        cases h
      | cons p' ps =>
        rw [hi, List.dropLast_cons_cons, ← hi] at h
        rcases List.mem_cons.1 h with rfl | h
        · exact hp
        · exact ih h
    · cases h

/-- The trouble of the first question that has any. -/
def firstTrouble? (qs : List Question) : Option Failure := qs.findSome? trouble?

theorem firstTrouble?_eq_none_iff : firstTrouble? qs = none ↔ ∀ q ∈ qs, q.trouble? = none :=
  List.findSome?_eq_none_iff

theorem firstTrouble?_about_cons {α β : Type} {r : Program.Request} {x : Except Failure α}
    {y : α → Except Failure β} (h : ∀ a, x = .ok a → firstTrouble? qs = failure? (y a)) :
    firstTrouble? (about r x :: qs) = failure? (x >>= y) := by
  rw [firstTrouble?, List.findSome?_cons]
  cases x with
  | error f => rfl
  | ok a => exact h a rfl

theorem firstTrouble?_of_mem_inTurn {f : Failure} (hq : q ∈ inTurn qs) (hf : q.trouble? = some f) :
    firstTrouble? qs = some f := by
  induction qs with
  | nil => cases hq
  | cons p qs ih =>
    rw [inTurn] at hq
    rcases List.mem_cons.1 hq with rfl | hq
    · rw [firstTrouble?, List.findSome?_cons, hf]
    · split at hq
      · next hp =>
        rw [firstTrouble?, List.findSome?_cons, hp]
        exact ih hq
      · cases hq

end Question

namespace Run

open Question (inTurn)

variable {α β : Type} {s : Surroundings} {files : FileTree} {r : Run α} {k : α → Run β}
  {x : Except Failure α} {y : α → Except Failure β} {qs : List Question}

/-- A run that asks a question goes on with more of them if the answer makes no trouble. -/
theorem Makes.next {q : Program.Request} (h : Makes s files r [q] x)
    (hk : ∀ a, x = .ok a → Makes s files (k a) ((inTurn qs).map Question.request) (y a)) :
    Makes s files (r >>= k) ((inTurn (.about q x :: qs)).map Question.request) (x >>= y) := by
  cases x with
  | ok a =>
    rw [Question.inTurn_about_ok, List.map_cons]
    exact h.bind (hk a rfl)
  | error f =>
    rw [Question.inTurn_about_error]
    exact h.bind_error

end Run

end ChangeFeed
