import ChangeFeed.Proofs.Analyzer.Settings

/-!
# Events and their subscriptions stay side by side

A batch has one event and two subscriptions for each subject, that is for each changed tag and then
for each reference (`Batch.IsAligned`). The two lists grow at different rates, so the place of a
subscription is found by counting subjects: `getElem?_flatMap_pair` does that once, for all subjects
in one list. `build_aligned` says when there is such a batch: unless there is no subject at all,
exactly if the URL of the commit can be told.
-/

namespace ChangeFeed

theorem Commit.occasion_eq_error_iff {c : Commit} {author : Text} (hn : c.authorName = .text author)
    {p : Failure} : c.occasion = .error p ↔ c.url = .error p := by
  cases hu : c.url with
  | error q =>
    unfold Commit.occasion
    rw [hu]
    simp [bind, Except.bind]
  | ok url =>
    obtain ⟨o, ho⟩ := c.exists_occasion hn hu
    simp [ho]

theorem Commit.of_occasion_eq_ok {c : Commit} {author : Text} (hn : c.authorName = .text author)
    {o : Occasion} (ho : c.occasion = .ok o) :
    c.url = .ok o.url ∧ o.author = author ∧ o.time = c.time := by
  unfold Commit.occasion at ho
  obtain ⟨url, hu, ho⟩ := bind_eq_ok_iff.1 ho
  obtain ⟨remote, -, ho⟩ := bind_eq_ok_iff.1 ho
  rw [hn] at ho
  cases ho
  exact ⟨hu, Value.display_text author, rfl⟩

section Pairs

variable {α β : Type} (f g : α → β)

theorem getElem?_flatMap_pair (xs : List α) (i : Nat) :
    (xs.flatMap fun x => [f x, g x])[2 * i]? = xs[i]?.map f ∧
      (xs.flatMap fun x => [f x, g x])[2 * i + 1]? = xs[i]?.map g := by
  induction xs generalizing i with
  | nil => simp
  | cons x xs ih =>
    cases i with
    | zero => simp
    | succ i =>
      have hi : 2 * (i + 1) = 2 * i + 1 + 1 := by omega
      simpa [hi] using ih i

theorem length_flatMap_pair (xs : List α) :
    (xs.flatMap fun x => [f x, g x]).length = 2 * xs.length := by
  induction xs with
  | nil => rfl
  | cons x xs ih =>
    rw [List.flatMap_cons, List.length_append, ih, List.length_cons]
    simp only [List.length_cons, List.length_nil]
    omega

end Pairs

namespace Batch

/-- The batch tells about each tag and then about each reference: one event for a subject, at its
position, and two subscriptions to it, at twice its position and behind. -/
structure IsAligned (b : Batch) (o : Occasion) (tags : List Tag) (refs : List Reference) :
    Prop where
  length_events : b.events.length = tags.length + refs.length
  length_subscriptions : b.subscriptions.length = 2 * b.events.length
  ofTag : ∀ {i : Nat} {t : Tag}, tags[i]? = some t → b.events[i]? = some (.ofTag o t)
  ofReference : ∀ {i : Nat} {r : Reference}, refs[i]? = some r →
    b.events[tags.length + i]? = some (.ofReference o r)
  ofSubject : ∀ {i : Nat} {v : Value}, (tags.map Tag.name ++ refs.map Reference.name)[i]? = some v →
    b.subscriptions[2 * i]? = some ⟨.text (Commit.firstName o.author), [v]⟩ ∧
      b.subscriptions[2 * i + 1]? = some ⟨.text o.author, [v]⟩
  ofCommit : ∀ e ∈ b.events, e.url = .text o.url ∧ e.time = o.time

theorem subscriptions_onOccasion (o : Occasion) (tags : List Tag) (refs : List Reference) :
    (onOccasion o tags refs).subscriptions =
      (tags.map Tag.name ++ refs.map Reference.name).flatMap fun v =>
        [⟨.text (Commit.firstName o.author), [v]⟩, ⟨.text o.author, [v]⟩] := by
  rw [List.flatMap_append, List.flatMap_map, List.flatMap_map]
  rfl

theorem isAligned_onOccasion (o : Occasion) (tags : List Tag) (refs : List Reference) :
    (onOccasion o tags refs).IsAligned o tags refs := by
  have hlen : (onOccasion o tags refs).events.length = tags.length + refs.length := by
    simp [onOccasion]
  refine ⟨hlen, ?_, fun {i t} ht => ?_, fun {i r} hr => ?_, fun {i v} hv => ?_, fun e he => ?_⟩
  · rw [hlen, subscriptions_onOccasion, length_flatMap_pair, List.length_append, List.length_map,
      List.length_map]
  · have hi : i < (tags.map (Event.ofTag o)).length := by
      simpa using (List.getElem?_eq_some_iff.1 ht).1
    simp only [onOccasion, List.getElem?_append_left hi, List.getElem?_map, ht, Option.map_some]
  · have hi : (tags.map (Event.ofTag o)).length ≤ tags.length + i := by simp
    simp only [onOccasion, List.getElem?_append_right hi, List.length_map, List.getElem?_map,
      Nat.add_sub_cancel_left, hr, Option.map_some]
  · rw [subscriptions_onOccasion]
    obtain ⟨h₁, h₂⟩ := getElem?_flatMap_pair
      (fun v : Value => (⟨.text (Commit.firstName o.author), [v]⟩ : Subscription))
      (fun v => ⟨.text o.author, [v]⟩) (tags.map Tag.name ++ refs.map Reference.name) i
    rw [h₁, h₂, hv]
    exact ⟨rfl, rfl⟩
  · simp only [onOccasion, List.mem_append, List.mem_map] at he
    rcases he with ⟨t, -, rfl⟩ | ⟨r, -, rfl⟩
    · exact ⟨rfl, rfl⟩
    · exact ⟨rfl, rfl⟩

theorem assemble_of_ne_nil {c : Commit} {author : Text} {tags : List Tag} {refs : List Reference}
    (hn : c.authorName = .text author) (h : tags ≠ [] ∨ refs ≠ []) :
    assemble c tags refs = c.occasion.map fun o => onOccasion o tags refs := by
  rw [assemble_eq, Commit.told_of_authorName hn, if_neg]
  tauto

end Batch

namespace Analyzer

variable {base settings : Table} {enabled markup : Bool} {ignored : List Text}

theorem build_of_examine {a : Analyzer} {diff : Text} {tags : List Tag} {f : Findings}
    (hf : a.examine diff tags = .ok f) (c : Commit) :
    a.build diff tags c = Batch.assemble c f.changed f.references := by
  unfold build
  rw [hf]
  rfl

/-- Without changed tags and references the batch of a diff is empty, whatever the template of the
URL. Else there is a batch exactly if the commit can tell its URL, and then events and subscriptions
belong to the tags and the references in their order. -/
theorem build_aligned (h : ReferencesSay settings enabled markup ignored)
    {cl : Git.Client × Ctags.Client} (hc : clients (.table base) = .ok cl) :
    ∃ a, ofConfig (Config.withReferences base settings) = .ok a ∧
      ∀ {diff : Text} {hs : List Hunk} {tags : List Tag} {c : Commit} {author : Text},
        Diff.parse diff = .ok hs → (∀ t ∈ tags, t.file.isKey) → c.authorName = .text author →
        ∃ x f, SymbolIndex.ofTags tags = .ok x ∧ a.examine diff tags = .ok f ∧
          f.changed = x.changed hs ∧
          f.references = (if enabled then (Scanner.default.narrow markup ignored).scan hs else []) ∧
          (f.changed = [] → f.references = [] → a.build diff tags c = .ok {}) ∧
          (f.changed ≠ [] ∨ f.references ≠ [] →
            (∀ p, a.build diff tags c = .error p ↔ c.url = .error p) ∧
            ∀ b, a.build diff tags c = .ok b → ∃ o, c.occasion = .ok o ∧ c.url = .ok o.url ∧
              o.author = author ∧ o.time = c.time ∧ b.IsAligned o f.changed f.references) := by
  refine ⟨⟨cl.1, cl.2, Scanner.default.narrow markup ignored, enabled⟩, ?_, ?_⟩
  · rw [ofConfig_of_referencesSay h, hc]
    rfl
  intro diff hs tags c author hp ht hn
  have hf := examine_eq_ok (a := ⟨cl.1, cl.2, Scanner.default.narrow markup ignored, enabled⟩) hp ht
  refine ⟨_, _, SymbolIndex.ofTags_eq_ok ht, hf, rfl, rfl, fun hch hr => ?_, fun hne => ?_⟩
  · rw [build_of_examine hf, hch, hr]
    rfl
  rw [build_of_examine hf, Batch.assemble_of_ne_nil hn hne]
  cases ho : c.occasion with
  | error q =>
    have hu := (Commit.occasion_eq_error_iff hn).1 ho
    refine ⟨fun p => ?_, nofun⟩
    rw [hu]
    simp [Except.map]
  | ok o =>
    obtain ⟨hu, ha, htime⟩ := Commit.of_occasion_eq_ok hn ho
    refine ⟨fun p => ?_, fun b hb => ?_⟩
    · rw [hu]
      simp [Except.map]
    · cases hb
      exact ⟨o, rfl, hu, ha, htime, Batch.isAligned_onOccasion o _ _⟩

/-- A commit whose template opens a field that it does not close. -/
def broken : Commit := { Commit.byJane with urlTemplate := .text "https://\x7bremote" }

theorem url_broken : broken.url = .error (.template .unclosedField) := by rfl

theorem build_aligned_quiet :
    ReferencesSay quiet true false ["save", "load"] ∧
      clients (.table Config.defaults) = .ok (default.git, default.ctags) ∧
      (∀ t ∈ SymbolIndex.interleaved, t.file.isKey) ∧
      ∃ a f o b, ofConfig (Config.withReferences Config.defaults quiet) = .ok a ∧
        a.build [] SymbolIndex.interleaved broken = .ok {} ∧
        a.build secondDiff SymbolIndex.interleaved broken = .error (.template .unclosedField) ∧
        a.examine secondDiff SymbolIndex.interleaved = .ok f ∧
        Commit.byJane.occasion = .ok o ∧
        a.build secondDiff SymbolIndex.interleaved Commit.byJane = .ok b ∧
        b.IsAligned o f.changed f.references ∧
        b.subscriptions[9]? = some ⟨.text "Jane Doe", [.text "run"]⟩ := by
  have hc : clients (.table Config.defaults) = .ok (default.git, default.ctags) := by rfl
  have ht : ∀ t ∈ SymbolIndex.interleaved, t.file.isKey := by decide
  obtain ⟨a, ha, h⟩ := build_aligned referencesSay_quiet hc
  have hnil : a.build [] SymbolIndex.interleaved broken = .ok {} := by
    have hparse : Diff.parse [] = .ok [] := rfl
    obtain ⟨x, f, -, -, hch, hr, hb, -⟩ := h (c := broken) hparse ht rfl
    have hnone : ∀ s ∈ x.spans, ¬s.changedBy (groupOf Value.sameKey s.tag.file []) = true :=
      fun _ _ => Bool.false_ne_true
    refine hb (hch.trans ?_) (by rw [hr]; rfl)
    exact List.map_eq_nil_iff.2 (List.filter_eq_nil_iff.2 hnone)
  obtain ⟨x, f, hx, hf, hch, hr, -, hb⟩ := h (c := broken) parse_secondDiff ht rfl
  cases hx.symm.trans (SymbolIndex.ofTags_eq_ok ht)
  have hne : f.changed ≠ [] ∨ f.references ≠ [] := .inr (by rw [hr]; decide +kernel)
  obtain ⟨x', f', -, hf', -, -, -, hb'⟩ := h (c := .byJane) parse_secondDiff ht rfl
  cases hf.symm.trans hf'
  obtain ⟨herr, hok⟩ := hb' hne
  cases hjane : a.build secondDiff SymbolIndex.interleaved .byJane with
  | error p =>
    have hu := (herr p).1 hjane
    rw [Commit.url_byJane] at hu
    cases hu
  | ok b =>
    obtain ⟨o, ho, -, hauthor, -, hal⟩ := hok b hjane
    have hrun : (f.changed.map Tag.name ++ f.references.map Reference.name)[4]? =
        some (.text "run") := by
      rw [hch, hr, SymbolIndex.sortByLine_interleaved]
      decide +kernel
    have hsub := (hal.ofSubject hrun).2
    rw [hauthor] at hsub
    exact ⟨referencesSay_quiet, hc, ht, a, f, o, b, ha, hnil, ((hb hne).1 _).2 url_broken, hf, ho,
      hjane, hal, hsub⟩

end Analyzer

end ChangeFeed
