import ChangeFeed.Analyzer
import ChangeFeed.Config.Merge
import ChangeFeed.Proofs.Outcome
import ChangeFeed.Proofs.Symbol.Changed

/-!
# What an analysis comes to

Once the diff can be read, the files of the tags are keys and the commit can tell its author and its
URL, nothing can go wrong any more: `examine_eq_ok` has the findings, and `build_eq_ok` the batch
that is made of them.

The two loops that make it ask the commit anew for each subject, and it always says the same. So
each loop comes to a list of events and one of subscriptions, or to what is wrong with the commit,
unless there is nothing to ask it for (`foldlM_tell`, by induction on the subjects).
-/

namespace ChangeFeed

theorem Commit.exists_occasion {c : Commit} {author url : Text} (hn : c.authorName = .text author)
    (hu : c.url = .ok url) : ∃ o, c.occasion = .ok o := by
  obtain ⟨_, -, hu'⟩ := bind_eq_ok_iff.1 hu
  obtain ⟨remote, hr, -⟩ := bind_eq_ok_iff.1 hu'
  rw [mapError_eq_ok_iff] at hr
  unfold Commit.occasion
  rw [hu, hr, hn]
  exact ⟨_, rfl⟩

/-- What the events and the subscriptions of a commit say about it. -/
def Commit.told (c : Commit) : Except Failure Occasion := do
  let o ← c.occasion
  let _ ← c.authorFirstName.mapError Failure.misuse
  return o

theorem Commit.told_of_authorName {c : Commit} {author : Text} (hn : c.authorName = .text author) :
    c.told = c.occasion := by
  unfold told authorFirstName
  rw [hn]
  cases c.occasion <;> rfl

theorem Commit.author_of_told {c : Commit} {o : Occasion} (h : c.told = .ok o) :
    c.authorName = .text o.author := by
  obtain ⟨o', ho, h⟩ := bind_eq_ok_iff.1 h
  obtain ⟨first, hfirst, h⟩ := bind_eq_ok_iff.1 h
  obtain rfl : o' = o := Except.ok.inj h
  rw [mapError_eq_ok_iff, authorFirstName, map_eq_ok_iff] at hfirst
  obtain ⟨author, hauthor, -⟩ := hfirst
  obtain ⟨_, -, ho⟩ := bind_eq_ok_iff.1 ho
  obtain ⟨_, -, ho⟩ := bind_eq_ok_iff.1 ho
  cases hn : c.authorName with
  | text t =>
    rw [hn] at ho
    cases ho
    exact congrArg Value.text (Value.display_text t).symm
  | _ =>
    rw [hn] at hauthor
    cases hauthor

/-- The subscriptions of an author to a subject, by first name and by full name. -/
def Subscription.ofSubject (author : Text) (subject : Value) : List Subscription :=
  [⟨.text (Commit.firstName author), [subject]⟩, ⟨.text author, [subject]⟩]

theorem Subscription.ofCommit_eq_ok {c : Commit} {author : Text} (hn : c.authorName = .text author)
    (subject : Value) : ofCommit c subject = .ok (ofSubject author subject) := by
  unfold ofCommit Commit.authorFirstName
  rw [hn]
  rfl

namespace Batch

/-- The batch of tags and references in a commit of which this is known. -/
def onOccasion (o : Occasion) (tags : List Tag) (refs : List Reference) : Batch :=
  { events := tags.map (Event.ofTag o) ++ refs.map (Event.ofReference o)
    subscriptions :=
      tags.flatMap (fun t => Subscription.ofSubject o.author t.name) ++
        refs.flatMap fun r => Subscription.ofSubject o.author r.name }

theorem tell_eq (c : Commit) (event : Occasion → Event) (subject : Value) (b : Batch) :
    tell c (c.occasion.map event) subject b = c.told.map fun o =>
      ⟨b.events ++ [event o], b.subscriptions ++ Subscription.ofSubject o.author subject⟩ := by
  cases htold : c.told with
  | ok o =>
    have hn := Commit.author_of_told htold
    rw [Commit.told_of_authorName hn] at htold
    unfold tell
    rw [htold, Subscription.ofCommit_eq_ok hn]
    rfl
  | error f =>
    unfold tell
    unfold Commit.told at htold
    cases ho : c.occasion with
    | error g =>
      rw [ho] at htold
      cases htold
      rfl
    | ok o =>
      rw [ho] at htold
      unfold Subscription.ofCommit
      cases hfirst : c.authorFirstName with
      | error m =>
        rw [hfirst] at htold
        cases htold
        rfl
      | ok first =>
        rw [hfirst] at htold
        cases htold

section
variable {α : Type} (c : Commit) (event : Occasion → α → Event) (subject : α → Value)

/-- A loop over subjects tells of each of them, unless there is one and the commit cannot be told
of. -/
theorem foldlM_tell (xs : List α) (b : Batch) :
    xs.foldlM (fun b x => tell c (c.occasion.map (event · x)) (subject x) b) b =
      if xs = [] then .ok b
      else c.told.map fun o => ⟨b.events ++ xs.map (event o), b.subscriptions ++
        xs.flatMap fun x => Subscription.ofSubject o.author (subject x)⟩ := by
  induction xs generalizing b with
  | nil => rfl
  | cons x xs ih =>
    rw [List.foldlM_cons, tell_eq, if_neg (List.cons_ne_nil x xs)]
    cases htold : c.told with
    | error f => rfl
    | ok o =>
      change List.foldlM _ _ xs = _
      rw [ih, htold]
      split
      · next hnil =>
        subst hnil
        simp only [Except.map, List.map_cons, List.map_nil, List.flatMap_singleton]
      · simp only [Except.map, List.map_cons, List.flatMap_cons, List.append_assoc,
          List.singleton_append]

end

/-- The batch of tags and references; what they say about the commit is needed only if there are
any. -/
theorem assemble_eq (c : Commit) (tags : List Tag) (refs : List Reference) :
    assemble c tags refs =
      if tags = [] ∧ refs = [] then .ok {} else c.told.map fun o => onOccasion o tags refs := by
  have htags := foldlM_tell c Event.ofTag Tag.name tags {}
  have hrefs := foldlM_tell c Event.ofReference Reference.name refs
  unfold assemble Event.modified Event.referenced
  rw [htags]
  by_cases ht : tags = []
  · rw [if_pos ht]
    change List.foldlM _ _ refs = _
    rw [hrefs]
    subst ht
    by_cases hr : refs = []
    · rw [if_pos hr, if_pos ⟨rfl, hr⟩]
    · rw [if_neg hr, if_neg fun h => hr h.2]
      rfl
  · rw [if_neg ht, if_neg fun h => ht h.1]
    cases htold : c.told with
    | error f => rfl
    | ok o =>
      change List.foldlM _ _ refs = _
      rw [hrefs, htold]
      by_cases hr : refs = []
      · subst hr
        simp [Except.map, onOccasion]
      · rw [if_neg hr]
        rfl

theorem assemble_eq_ok {c : Commit} {author : Text} {o : Occasion}
    (hn : c.authorName = .text author) (ho : c.occasion = .ok o) (tags : List Tag)
    (refs : List Reference) : assemble c tags refs = .ok (onOccasion o tags refs) := by
  rw [assemble_eq, Commit.told_of_authorName hn, ho]
  split
  · next h =>
    -- without tags and references the batch is empty as well
    obtain ⟨rfl, rfl⟩ := h
    rfl
  · rfl

end Batch

namespace Analyzer

variable {a : Analyzer} {diff : Text} {tags : List Tag} {hs : List Hunk} {f : Findings}

/-- The findings of a diff with the given hunks. -/
def findings (a : Analyzer) (tags : List Tag) (hs : List Hunk) : Findings where
  hunks := hs
  tagCount := tags.length
  changed := SymbolIndex.changed ⟨SymbolIndex.sortByLine tags⟩ hs
  references := if a.references then a.scanner.scan hs else []

theorem examine_eq_ok (hp : Diff.parse diff = .ok hs) (ht : ∀ t ∈ tags, t.file.isKey) :
    a.examine diff tags = .ok (a.findings tags hs) := by
  have hl : (SymbolIndex.sortByLine tags).length = tags.length := List.length_mergeSort tags
  unfold examine
  rw [hp, SymbolIndex.ofTags_eq_ok ht, findings, ← hl]
  rfl

theorem build_eq_ok {c : Commit} {author : Text} {o : Occasion} (hn : c.authorName = .text author)
    (ho : c.occasion = .ok o) (hf : a.examine diff tags = .ok f) :
    a.build diff tags c = .ok (.onOccasion o f.changed f.references) := by
  unfold build
  rw [hf]
  exact Batch.assemble_eq_ok hn ho f.changed f.references

/-- The analyzer of the default configuration. -/
def default : Analyzer where
  git := { limit := .int 30, remote := .text "origin", urlTemplate := Commit.defaultUrlTemplate }
  ctags := { program := .text "ctags", format := .json, limit := .int 60 }
  scanner := .default
  references := true

theorem ofConfig_defaults : ofConfig (.table Config.defaults) = .ok default := by rfl

end Analyzer

/-- A commit whose URL comes from the default template. -/
def Commit.byJane : Commit where
  hash := .text "4b825dc"
  authorName := .text "Jane Doe"
  authorEmail := .text "jane@example.com"
  time := { seconds := 1705314600, first_le := by decide, le_last := by decide }
  branch := .text "main"
  remoteUrl := .text "git@github.com:acme/app.git"
  urlTemplate := .text Commit.defaultUrlTemplate

theorem Commit.url_byJane : byJane.url = .ok "https://github.com/acme/app/commit/4b825dc" := by rfl

end ChangeFeed
