import ChangeFeed.Proofs.Analyzer.Build
import ChangeFeed.Proofs.Reference.Words
import ChangeFeed.Proofs.Text.Scan

/-!
# What the id of an event tells

The parts of an id stand in it as they are, with colons between them, and the events of one commit
end in the same URL. The kind and the name of a reference have no colon, so both are found again in
the id, and with them the file, whatever colons stand in that (`id_ofReference_eq_iff`). The name of
a tag may have one: then two tags have the same event when the colon behind the name of one is a
colon in the name of the other (`same_ofTag_iff`).
-/

namespace ChangeFeed

namespace Text

variable {sep : Char} {a b a' b' : Text}

/-- The separator between two texts is one in the first of two others, which takes over the start of
the second text. -/
def Shifts (sep : Char) (a b a' b' : Text) : Prop := ∃ x, a' = a ++ sep :: x ∧ b = x ++ sep :: b'

/-- Two pairs of texts that are joined by a separator are the same, or one of them is cut at another
separator. -/
theorem append_sep_eq_append_sep_iff : a ++ sep :: b = a' ++ sep :: b' ↔
    (a = a' ∧ b = b') ∨ Shifts sep a b a' b' ∨ Shifts sep a' b' a b := by
  rw [List.append_eq_append_iff]
  constructor
  · rintro (⟨x, rfl, hx⟩ | ⟨x, rfl, hx⟩)
    · cases x with
      | nil => exact .inl ⟨by simp, by simpa using hx⟩
      | cons c x =>
        rw [List.cons_append, List.cons.injEq] at hx
        obtain ⟨rfl, rfl⟩ := hx
        exact .inr (.inl ⟨x, rfl, rfl⟩)
    · cases x with
      | nil => exact .inl ⟨by simp, by simpa using hx.symm⟩
      | cons c x =>
        rw [List.cons_append, List.cons.injEq] at hx
        obtain ⟨rfl, rfl⟩ := hx
        exact .inr (.inr ⟨x, rfl, rfl⟩)
  · rintro (⟨rfl, rfl⟩ | ⟨x, rfl, rfl⟩ | ⟨x, rfl, rfl⟩)
    · exact .inl ⟨[], by simp, rfl⟩
    · exact .inl ⟨sep :: x, rfl, rfl⟩
    · exact .inr ⟨sep :: x, rfl, rfl⟩

theorem Shifts.count_lt (h : Shifts sep a b a' b') : a.count sep < a'.count sep := by
  obtain ⟨x, rfl, -⟩ := h
  rw [List.count_append, List.count_cons_self]
  omega

end Text

namespace Event

open Text

theorem idOf_eq (kind subject file url : Text) : idOf kind subject file url =
    CodePoints.ofText (kind ++ ':' :: (subject ++ ':' :: (file ++ ':' :: url))) := by
  simp only [idOf, ← CodePoints.ofText_append]
  simp

/-- Among the events of a kind with one URL, an id is as good as subject and file with a colon
between them. -/
theorem idOf_eq_idOf_iff {kind s f s' f' url : Text} :
    idOf kind s f url = idOf kind s' f' url ↔ s ++ ':' :: f = s' ++ ':' :: f' := by
  rw [idOf_eq, idOf_eq, CodePoints.ofText_inj, List.append_cancel_left_eq, List.cons.injEq]
  have hs : ∀ s f : Text, s ++ ':' :: (f ++ ':' :: url) = (s ++ ':' :: f) ++ ':' :: url := by simp
  rw [hs, hs, List.append_cancel_right_eq]
  simp

theorem idOf_eq_idOf_of_not_mem {kind kind' s s' f f' url : Text} (hk : ':' ∉ kind)
    (hk' : ':' ∉ kind') (hs : ':' ∉ s) (hs' : ':' ∉ s') :
    idOf kind s f url = idOf kind' s' f' url ↔ kind = kind' ∧ s = s' ∧ f = f' := by
  rw [idOf_eq, idOf_eq, CodePoints.ofText_inj, append_sep_inj hk hk', append_sep_inj hs hs',
    List.append_cancel_right_eq]

/-- The events of two tags are the same if the tags agree in name and file, and besides only if a
colon in the name of one tag stands where the name of the other ends; of tags with equally many
colons in their names, that is never so. -/
theorem same_ofTag_iff {c : Commit} {author url : Text} (hn : c.authorName = .text author)
    (hu : c.url = .ok url) :
    ∃ o, c.occasion = .ok o ∧ ∀ {t₁ t₂ : Tag} {n₁ f₁ n₂ f₂ : Text},
      t₁.name = .text n₁ → t₁.file = .text f₁ → t₂.name = .text n₂ → t₂.file = .text f₂ →
      (same (ofTag o t₁) (ofTag o t₂) ↔
        (n₁ = n₂ ∧ f₁ = f₂) ∨ Shifts ':' n₁ f₁ n₂ f₂ ∨ Shifts ':' n₂ f₂ n₁ f₁) ∧
      (n₁.count ':' = n₂.count ':' → (same (ofTag o t₁) (ofTag o t₂) ↔ n₁ = n₂ ∧ f₁ = f₂)) := by
  obtain ⟨o, ho⟩ := c.exists_occasion hn hu
  refine ⟨o, ho, fun {t₁ t₂ n₁ f₁ n₂ f₂} hn₁ hf₁ hn₂ hf₂ => ?_⟩
  have hs : same (ofTag o t₁) (ofTag o t₂) ↔
      (n₁ = n₂ ∧ f₁ = f₂) ∨ Shifts ':' n₁ f₁ n₂ f₂ ∨ Shifts ':' n₂ f₂ n₁ f₁ := by
    rw [same, ofTag, ofTag, hn₁, hf₁, hn₂, hf₂]
    simp only [Value.points_text, idOf_eq, Value.ofPoints_ofText, Value.sameKey_text, beq_iff_eq]
    rw [← CodePoints.ofText_inj, ← idOf_eq, ← idOf_eq, idOf_eq_idOf_iff,
      append_sep_eq_append_sep_iff]
  refine ⟨hs, fun hcount => hs.trans (or_iff_left ?_)⟩
  rintro (h | h)
  · have := h.count_lt
    omega
  · have := h.count_lt
    omega

/-- A method of a class. -/
def area : Tag := { file := .text "a.cpp", name := .text "Shape::area", line := 3 }

/-- The class in a file whose path has colons. -/
def shape : Tag := { file := .text ":area:a.cpp", name := .text "Shape", line := 5 }

theorem same_ofTag_area :
    Commit.byJane.authorName = .text "Jane Doe" ∧
      Commit.byJane.url = .ok "https://github.com/acme/app/commit/4b825dc" ∧
      ∃ o, Commit.byJane.occasion = .ok o ∧ same (ofTag o area) (ofTag o shape) ∧
        ¬same (ofTag o area) (ofTag o { area with name := .text "Shape::size" }) := by
  obtain ⟨o, ho, h⟩ := same_ofTag_iff (c := .byJane) rfl Commit.url_byJane
  have hs : Shifts ':' "Shape" ":area:a.cpp" "Shape::area" "a.cpp" := ⟨":area", rfl, rfl⟩
  refine ⟨rfl, Commit.url_byJane, o, ho, (h rfl rfl rfl rfl).1.2 (.inr (.inr hs)), fun hsize => ?_⟩
  have hne := ((h rfl rfl rfl rfl).2 (by decide)).1 hsize
  exact absurd hne.1 (by decide)

/-- Neither the names nor the files of the two tags are the same, but their events are. -/
theorem same_ofTag_area_shape :
    ∃ o, Commit.byJane.occasion = .ok o ∧ same (ofTag o area) (ofTag o shape) = true ∧
      area.name ≠ shape.name ∧ area.file ≠ shape.file := by
  refine ⟨_, rfl, ?_, ?_, ?_⟩ <;> decide +kernel

theorem colon_not_mem_referenceKind (k : ReferenceKind) : ':' ∉ referenceKind k := by
  cases k <;> decide

theorem referenceKind_inj {k k' : ReferenceKind} : referenceKind k = referenceKind k' ↔ k = k' := by
  cases k <;> cases k' <;> decide

theorem colon_not_mem_of_isWordRun {name : Text} (h : Scanner.IsWordRun name) : ':' ∉ name :=
  fun hm => absurd (h ':' hm) (by decide)

theorem idOf_modified_ne (k : ReferenceKind) (s f s' f' url : CodePoints) :
    idOf (referenceKind k) s f url ≠ idOf EventType.modified.name s' f' url := by
  -- the two kinds differ in their first letter
  have hr : ∃ u, referenceKind k = 'r' :: u := by cases k <;> exact ⟨_, rfl⟩
  have hm : ∃ u, EventType.modified.name = 'm' :: u := ⟨_, rfl⟩
  obtain ⟨_, hr⟩ := hr
  obtain ⟨_, hm⟩ := hm
  intro he
  rw [idOf, idOf, hr, hm] at he
  simp only [List.append_assoc] at he
  exact absurd (List.cons.inj he).1 (by decide)

/-- The events of two references that scanners have found have the same id exactly if the references
agree in kind, name and file, and none has the id of a changed tag. -/
theorem id_ofReference_eq_iff {c : Commit} {author url : Text} (hn : c.authorName = .text author)
    (hu : c.url = .ok url) :
    ∃ o, c.occasion = .ok o ∧
      ∀ {s₁ s₂ : Scanner} {hs₁ hs₂ : List Hunk} {r₁ r₂ : Reference} {f₁ f₂ : Text},
        r₁ ∈ s₁.scan hs₁ → r₂ ∈ s₂.scan hs₂ → r₁.file = .text f₁ → r₂.file = .text f₂ →
        ((ofReference o r₁).id = (ofReference o r₂).id ↔
          r₁.kind = r₂.kind ∧ r₁.name = r₂.name ∧ r₁.file = r₂.file) ∧
        ∀ t : Tag, (ofReference o r₁).id ≠ (ofTag o t).id := by
  obtain ⟨o, ho⟩ := c.exists_occasion hn hu
  refine ⟨o, ho, fun {s₁ s₂ hs₁ hs₂ r₁ r₂ f₁ f₂} h₁ h₂ hf₁ hf₂ => ⟨?_, fun t => ?_⟩⟩
  · obtain ⟨n₁, hn₁, hw₁⟩ := Scanner.isWordRun_of_mem_scan h₁
    obtain ⟨n₂, hn₂, hw₂⟩ := Scanner.isWordRun_of_mem_scan h₂
    have hid : idOf (referenceKind r₁.kind) n₁ f₁ o.url = idOf (referenceKind r₂.kind) n₂ f₂ o.url ↔
        referenceKind r₁.kind = referenceKind r₂.kind ∧ n₁ = n₂ ∧ f₁ = f₂ :=
      idOf_eq_idOf_of_not_mem (colon_not_mem_referenceKind r₁.kind)
        (colon_not_mem_referenceKind r₂.kind) (colon_not_mem_of_isWordRun hw₁)
        (colon_not_mem_of_isWordRun hw₂)
    rw [ofReference, ofReference, hn₁, hn₂, hf₁, hf₂]
    simp only [Value.points_text, Value.ofPoints_inj, hid, referenceKind_inj, Value.text.injEq]
  · intro he
    exact idOf_modified_ne r₁.kind _ _ _ _ _ (Value.ofPoints_inj.1 he)

/-- A hunk that adds two calls of the same name, to a file whose path has a colon. -/
def loads : Hunk := ⟨.text "a:b.go", 1, 0, 1, 2, [], [⟨2, "x := load(1)"⟩, ⟨3, "load(2)"⟩]⟩

/-- The call in one line of the hunk. -/
def load (num : Int) (line : Text) : Reference :=
  ⟨.text "load", .call, .text "a:b.go", num, .text line⟩

theorem id_ofReference_loads :
    load 2 "x := load(1)" ∈ Scanner.default.scan [loads] ∧
      load 3 "load(2)" ∈ Scanner.scan ⟨["x"], false⟩ [loads] ∧
      Commit.byJane.authorName = .text "Jane Doe" ∧
      Commit.byJane.url = .ok "https://github.com/acme/app/commit/4b825dc" ∧
      ∃ o, Commit.byJane.occasion = .ok o ∧
        (ofReference o (load 2 "x := load(1)")).id = (ofReference o (load 3 "load(2)")).id ∧
        ∀ t : Tag, (ofReference o (load 2 "x := load(1)")).id ≠ (ofTag o t).id := by
  have h₁ : load 2 "x := load(1)" ∈ Scanner.default.scan [loads] := by decide +kernel
  have h₂ : load 3 "load(2)" ∈ Scanner.scan ⟨["x"], false⟩ [loads] := by decide +kernel
  obtain ⟨o, ho, h⟩ := id_ofReference_eq_iff (c := .byJane) rfl Commit.url_byJane
  obtain ⟨hid, hne⟩ := h h₁ h₂ rfl rfl
  exact ⟨h₁, h₂, rfl, Commit.url_byJane, o, ho, hid.2 ⟨rfl, rfl, rfl⟩, hne⟩

end Event

end ChangeFeed
