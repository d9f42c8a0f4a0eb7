import ChangeFeed.Proofs.Analyzer.Alignment
import Mathlib.Data.List.Nodup

/-!
# The order in which tags are listed

Whether a hunk changes a tag depends on which tags there are, not on their order, so a permutation
of the tags permutes the changed ones (`SymbolIndex.changed_perm`). The sort by line leaves nothing
of their order but among tags of one line (`SymbolIndex.sortByLine_eq_of_perm`). A batch carries
this over to its notices, that is to the events with their subscriptions (`Analyzer.build_perm`).
-/

namespace ChangeFeed

namespace SymbolIndex

variable {ts us : List Tag}

theorem sortByLine_perm (h : ts.Perm us) : (sortByLine ts).Perm (sortByLine us) :=
  (List.mergeSort_perm ts _).trans (h.trans (List.mergeSort_perm us _).symm)

theorem sortByLine_eq_of_perm (h : ts.Perm us) (hn : (ts.map Tag.line).Nodup) :
    sortByLine ts = sortByLine us := by
  refine (sortByLine_perm h).eq_of_pairwise (fun t u ht hu htu hut => ?_)
    (ordered_sortByLine ts) (ordered_sortByLine us)
  have ht' : t ∈ ts := (stableOrder_sortByLine ts).mem_iff.1 ht
  have hu' : u ∈ ts := h.mem_iff.2 ((stableOrder_sortByLine us).mem_iff.1 hu)
  exact List.inj_on_of_nodup_map hn ht' hu' (Int.le_antisymm htu hut)

/-- On one line, the tag that is listed first stays the first. -/
example : (sortByLine interleaved.reverse).map Tag.name =
    [.text "New", .text "Read", .text "Close", .text "Open"] := by cbv

theorem changed_perm (h : ts.Perm us) (hs : List Hunk) :
    (changed ⟨sortByLine ts⟩ hs).Perm (changed ⟨sortByLine us⟩ hs) := by
  have htouch : ∀ t k, Hunk.Touches ts t k ↔ Hunk.Touches us t k :=
    fun t k => by simp only [Hunk.Touches, h.mem_iff]
  rw [changed_sortByLine, changed_sortByLine]
  simp only [htouch]
  exact (sortByLine_perm h).filter _

end SymbolIndex

/-! ### Notices -/

/-- The subscriptions two by two. -/
def Subscription.pairs : List Subscription → List (List Subscription)
  | s :: s' :: subs => [s, s'] :: pairs subs
  | _ => []

namespace Batch

/-- The events, each with the two subscriptions at its place. -/
def notices (b : Batch) : List (Event × List Subscription) :=
  b.events.zip (Subscription.pairs b.subscriptions)

/-- The notices of events of a type. -/
def noticesOf (type : EventType) (b : Batch) : List (Event × List Subscription) :=
  b.notices.filter fun n => n.1.type = type

/-- The notice of a tag. -/
def noticeOfTag (o : Occasion) (t : Tag) : Event × List Subscription :=
  (.ofTag o t, Subscription.ofSubject o.author t.name)

/-- The notice of a reference. -/
def noticeOfReference (o : Occasion) (r : Reference) : Event × List Subscription :=
  (.ofReference o r, Subscription.ofSubject o.author r.name)

variable {o : Occasion} {tags : List Tag} {refs : List Reference}

theorem pairs_flatMap (author : Text) (vs : List Value) :
    Subscription.pairs (vs.flatMap (Subscription.ofSubject author)) =
      vs.map (Subscription.ofSubject author) := by
  induction vs with
  | nil => rfl
  | cons v vs ih => exact congrArg (Subscription.ofSubject author v :: ·) ih

theorem notices_onOccasion : (onOccasion o tags refs).notices =
    tags.map (noticeOfTag o) ++ refs.map (noticeOfReference o) := by
  have hs : (onOccasion o tags refs).subscriptions =
      (tags.map Tag.name ++ refs.map Reference.name).flatMap (Subscription.ofSubject o.author) :=
    subscriptions_onOccasion o tags refs
  rw [notices, hs, pairs_flatMap, List.map_append, List.map_map, List.map_map]
  exact (List.zip_append (by simp)).trans (congrArg₂ (· ++ ·) List.zip_map' List.zip_map')

theorem noticesOf_onOccasion (type : EventType) : (onOccasion o tags refs).noticesOf type =
    match type with
    | .modified => tags.map (noticeOfTag o)
    | .referenced => refs.map (noticeOfReference o) := by
  rw [noticesOf, notices_onOccasion, List.filter_append, List.filter_map, List.filter_map]
  cases type <;>
    simp [Function.comp_def, noticeOfTag, noticeOfReference, Event.ofTag, Event.ofReference]

/-- The notices are all there is in a batch, and those of modified symbols each tell about one of
the tags. -/
structure ConsistsOfNotices (b : Batch) (o : Occasion) (tags : List Tag) : Prop where
  events : b.events = b.notices.map Prod.fst
  subscriptions : b.subscriptions = b.notices.flatMap Prod.snd
  ofTag : ∀ n ∈ b.noticesOf .modified, ∃ t ∈ tags, n = noticeOfTag o t

theorem consistsOfNotices_onOccasion {listed : List Tag} (h : tags ⊆ listed) :
    (onOccasion o tags refs).ConsistsOfNotices o listed where
  events := by
    rw [notices_onOccasion, List.map_append, List.map_map, List.map_map]
    rfl
  subscriptions := by
    rw [notices_onOccasion, List.flatMap_append, List.flatMap_map, List.flatMap_map]
    rfl
  ofTag n hn := by
    rw [noticesOf_onOccasion] at hn
    obtain ⟨t, ht, rfl⟩ := List.mem_map.1 hn
    exact ⟨t, h ht, rfl⟩

end Batch

namespace Analyzer

variable {ts us : List Tag}

/-- Two orders of the same tags give batches with the same notices, those of references in the same
order as well, and if no two tags are on one line, the same batch. -/
theorem build_perm (a : Analyzer) {diff : Text} {hs : List Hunk} {c : Commit} {author url : Text}
    (hp : Diff.parse diff = .ok hs) (ht : ∀ t ∈ ts, t.file.isKey)
    (hn : c.authorName = .text author) (hu : c.url = .ok url) (h : ts.Perm us) :
    ∃ o x y, c.occasion = .ok o ∧ a.build diff ts c = .ok x ∧ a.build diff us c = .ok y ∧
      x.ConsistsOfNotices o ts ∧ y.ConsistsOfNotices o us ∧
      (x.noticesOf .modified).Perm (y.noticesOf .modified) ∧
      x.noticesOf .referenced = y.noticesOf .referenced ∧
      ((ts.map Tag.line).Nodup → x = y) := by
  obtain ⟨o, ho⟩ := c.exists_occasion hn hu
  have hx := build_eq_ok hn ho (examine_eq_ok (a := a) hp ht)
  have hy := build_eq_ok hn ho (examine_eq_ok (a := a) hp fun t hm => ht t (h.mem_iff.2 hm))
  have hlisted : ∀ tags : List Tag, (a.findings tags hs).changed ⊆ tags := fun tags t hm =>
    (SymbolIndex.stableOrder_sortByLine tags).mem_iff.1
      ((SymbolIndex.changed_sublist _ hs).subset hm)
  refine ⟨o, _, _, ho, hx, hy, Batch.consistsOfNotices_onOccasion (hlisted ts),
    Batch.consistsOfNotices_onOccasion (hlisted us), ?_, ?_, fun hd => ?_⟩
  · rw [Batch.noticesOf_onOccasion, Batch.noticesOf_onOccasion]
    exact (SymbolIndex.changed_perm h hs).map _
  · rw [Batch.noticesOf_onOccasion, Batch.noticesOf_onOccasion]
    rfl
  · simp only [findings, SymbolIndex.sortByLine_eq_of_perm h hd]

/-- Two of the tags are on one line; without the first of them, no two are. -/
theorem build_perm_interleaved :
    Diff.parse secondDiff = .ok [
        ⟨.text "a.go", 2, 1, 2, 10, [], [⟨10, "<Panel>{run(1)}"⟩]⟩,
        ⟨.text "b.go", 4, 4, 4, 4, [], [⟨4, "load(y)"⟩]⟩] ∧
      (∀ t ∈ SymbolIndex.interleaved, t.file.isKey) ∧
      (SymbolIndex.interleaved.tail.map Tag.line).Nodup ∧
      (∃ x y, default.build secondDiff SymbolIndex.interleaved .byJane = .ok x ∧
        default.build secondDiff SymbolIndex.interleaved.reverse .byJane = .ok y ∧
        (x.noticesOf .modified).Perm (y.noticesOf .modified) ∧
        x.noticesOf .referenced = y.noticesOf .referenced) ∧
      default.build secondDiff SymbolIndex.interleaved.tail .byJane =
        default.build secondDiff SymbolIndex.interleaved.tail.reverse .byJane := by
  have ht : ∀ t ∈ SymbolIndex.interleaved, t.file.isKey := by decide
  have hd : (SymbolIndex.interleaved.tail.map Tag.line).Nodup := by decide
  have hperm : ∀ tags : List Tag, tags.Perm tags.reverse := fun tags =>
    (List.reverse_perm tags).symm
  obtain ⟨_, x, y, -, hx, hy, -, -, hmod, href, -⟩ :=
    build_perm default parse_secondDiff ht rfl Commit.url_byJane (hperm _)
  obtain ⟨_, x', y', -, hx', hy', -, -, -, -, hsame⟩ :=
    build_perm default parse_secondDiff (fun t hm => ht t (List.mem_of_mem_tail hm)) rfl
      Commit.url_byJane (hperm _)
  refine ⟨parse_secondDiff, ht, hd, ⟨x, y, hx, hy, hmod, href⟩, ?_⟩
  rw [hx', hy', hsame hd]

end Analyzer

end ChangeFeed
