import ChangeFeed.Json.Writer
import ChangeFeed.Proofs.Analyzer.FailFast
import ChangeFeed.Proofs.Grouping

/-!
# Tags file by file

An index has the positions of the tags of each file, found in one way through the sorted tags. The
tags that are at these positions, file by file, are all the tags (`SymbolIndex.Regroups`): those of
a file stand together, in their order by line, and the files come in the order of their first tags.
This is what an analysis gives for the tags that it has asked for (`Analyzer.tags_regroups`).
-/

namespace ChangeFeed

/-- Whether a tag is one of a file. -/
def Tag.isIn (file : Value) (t : Tag) : Bool := Value.sameKey t.file file

theorem StableOrder.filter {tags sorted : List Tag} (h : StableOrder tags sorted)
    (p : Tag → Bool) : StableOrder (tags.filter p) (sorted.filter p) := by
  refine ⟨h.ordered.filter p, fun n => ?_⟩
  rw [List.filter_comm, h.sameLine, List.filter_comm]

namespace SymbolIndex

open Value (sameKey sameKey_equivalence)

variable {x : SymbolIndex} {tags : List Tag}

/-- The position of the first tag of a file. -/
def firstIn (x : SymbolIndex) (file : Value) : Nat := x.tags.findIdx (Tag.isIn file)

/-- The index of these tags regroups them. -/
structure Regroups (x : SymbolIndex) (tags : List Tag) : Prop where
  order : StableOrder tags x.tags
  perm : x.regrouped.Perm tags
  /-- The tags of a file stand together. -/
  together : ∀ file, x.regrouped.filter (Tag.isIn file) <:+: x.regrouped
  /-- They are in order by line, and those of one line in the order they came in. -/
  stable : ∀ file, StableOrder (tags.filter (Tag.isIn file)) (x.regrouped.filter (Tag.isIn file))
  /-- The first tag of a file has the place of the file among the files. -/
  byFirst : x.regrouped.Pairwise fun t u => t.isIn u.file ∨ x.firstIn t.file < x.firstIn u.file
  lookUp : ∀ file, file.isKey → x.lookUp file = .ok (x.tags.filter (Tag.isIn file))
  files : x.files.Pairwise fun file file' => x.firstIn file < x.firstIn file'
  covers : ∀ t ∈ tags, ∃ file ∈ x.files, t.isIn file
  found : ∀ file ∈ x.files, ∃ t ∈ tags, t.file = file
  /-- The positions of the tags of all files are all positions, each of them once. -/
  positions : (x.files.flatMap x.positionsIn).Perm (List.range x.tags.length)
  ascending : ∀ file, (x.positionsIn file).Pairwise (· < ·)
  located : ∀ file position, position ∈ x.positionsIn file ↔
    ∃ t, x.tags[position]? = some t ∧ t.isIn file

theorem isIn_congr {file file' : Value} (h : sameKey file file') :
    Tag.isIn file = Tag.isIn file' :=
  funext fun t => same_congr sameKey_equivalence h t.file

theorem firstIn_congr {file file' : Value} (h : sameKey file file') :
    x.firstIn file = x.firstIn file' := by
  rw [firstIn, firstIn, isIn_congr h]

theorem inFile_eq_filter (x : SymbolIndex) (file : Value) :
    x.inFile file = x.tags.filter (Tag.isIn file) :=
  elementsAt_groupOf sameKey_equivalence Tag.file x.tags file

theorem isIn_of_mem_inFile {file : Value} {t : Tag} (h : t ∈ x.inFile file) : t.isIn file := by
  rw [inFile_eq_filter] at h
  exact (List.mem_filter.1 h).2

theorem areFirsts_files (x : SymbolIndex) :
    AreFirsts sameKey (x.tags.map Tag.file) x.files :=
  areFirsts_positionsBy sameKey_equivalence Tag.file x.tags

theorem pairwise_files (x : SymbolIndex) :
    x.files.Pairwise fun file file' => x.firstIn file < x.firstIn file' := by
  have hfirst : ∀ file, firstOf sameKey file (x.tags.map Tag.file) = x.firstIn file :=
    fun file => List.findIdx_map ..
  simpa only [hfirst] using x.areFirsts_files.ordered

theorem exists_file {t : Tag} (h : t ∈ x.tags) : ∃ file ∈ x.files, t.isIn file :=
  x.areFirsts_files.covers t.file (List.mem_map_of_mem h)

theorem exists_regrouped_eq (x : SymbolIndex) (file : Value) :
    ∃ front back, x.regrouped = front ++ x.inFile file ++ back ∧
      (∀ t ∈ front, ¬t.isIn file) ∧ ∀ t ∈ back, ¬t.isIn file := by
  by_cases hfile : ∃ f ∈ x.files, sameKey f file
  · obtain ⟨f, hf, hsame⟩ := hfile
    obtain ⟨front, back, hfiles⟩ := List.append_of_mem hf
    have hin : x.inFile f = x.inFile file := by
      rw [inFile_eq_filter, inFile_eq_filter, isIn_congr hsame]
    have hother : ∀ f' t, ¬sameKey f' f → t ∈ x.inFile f' → ¬t.isIn file := by
      intro f' t hne ht htf
      have htf' : sameKey t.file f' := isIn_of_mem_inFile ht
      have hff' := sameKey_equivalence.trans (sameKey_equivalence.symm htf') htf
      exact hne (sameKey_equivalence.trans hff' (sameKey_equivalence.symm hsame))
    have hapart := x.areFirsts_files.apart sameKey_equivalence
    rw [hfiles] at hapart
    obtain ⟨-, hback, hfront⟩ := List.pairwise_append.1 hapart
    refine ⟨front.flatMap x.inFile, back.flatMap x.inFile, ?_, fun t ht => ?_, fun t ht => ?_⟩
    · rw [regrouped, hfiles, List.flatMap_append, List.flatMap_cons, hin, List.append_assoc]
    · obtain ⟨f', hf', htf'⟩ := List.mem_flatMap.1 ht
      exact hother f' t (hfront f' hf' f (by simp)) htf'
    · obtain ⟨f', hf', htf'⟩ := List.mem_flatMap.1 ht
      refine hother f' t (fun hsame' => ?_) htf'
      exact List.rel_of_pairwise_cons hback hf' (sameKey_equivalence.symm hsame')
  · have hnone : ∀ t ∈ x.tags, ¬t.isIn file := by
      intro t ht htf
      obtain ⟨f, hf, hsame⟩ := exists_file ht
      exact hfile ⟨f, hf, sameKey_equivalence.trans (sameKey_equivalence.symm hsame) htf⟩
    have hnil : x.inFile file = [] := by
      rw [inFile_eq_filter]
      exact List.filter_eq_nil_iff.2 hnone
    refine ⟨x.regrouped, [], ?_, fun t ht => ?_, by simp⟩
    · rw [hnil, List.append_nil, List.append_nil]
    obtain ⟨f, -, htf⟩ := List.mem_flatMap.1 ht
    rw [inFile_eq_filter] at htf
    exact hnone t (List.mem_filter.1 htf).1

theorem filter_regrouped (x : SymbolIndex) (file : Value) :
    x.regrouped.filter (Tag.isIn file) = x.inFile file := by
  obtain ⟨front, back, hregrouped, hfront, hback⟩ := x.exists_regrouped_eq file
  have hin : (x.inFile file).filter (Tag.isIn file) = x.inFile file :=
    List.filter_eq_self.2 fun t ht => isIn_of_mem_inFile ht
  rw [hregrouped, List.filter_append, List.filter_append, List.filter_eq_nil_iff.2 hfront,
    List.filter_eq_nil_iff.2 hback, hin, List.nil_append, List.append_nil]

theorem positions_perm (x : SymbolIndex) :
    (x.files.flatMap x.positionsIn).Perm (List.range x.tags.length) :=
  flatMap_positionsBy_perm sameKey_equivalence Tag.file x.tags

theorem regrouped_perm (x : SymbolIndex) : x.regrouped.Perm x.tags := by
  have hregrouped : x.regrouped = elementsAt x.tags (x.files.flatMap x.positionsIn) :=
    List.filterMap_flatMap.symm
  rw [hregrouped]
  conv_rhs => rw [← elementsAt_range x.tags]
  exact x.positions_perm.filterMap _

theorem pairwise_regrouped (x : SymbolIndex) :
    x.regrouped.Pairwise fun t u => t.isIn u.file ∨ x.firstIn t.file < x.firstIn u.file := by
  refine List.pairwise_flatMap.2 ⟨fun file _ => ?_, x.pairwise_files.imp fun {f f'} hlt => ?_⟩
  · refine List.pairwise_of_forall_mem_list fun t ht u hu => .inl ?_
    have hu' := sameKey_equivalence.symm (isIn_of_mem_inFile hu)
    exact sameKey_equivalence.trans (isIn_of_mem_inFile ht) hu'
  · intro t ht u hu
    rw [firstIn_congr (isIn_of_mem_inFile ht), firstIn_congr (isIn_of_mem_inFile hu)]
    exact .inr hlt

theorem regroups (order : StableOrder tags x.tags) (perm : x.tags.Perm tags) :
    x.Regroups tags where
  order := order
  perm := x.regrouped_perm.trans perm
  together file := by
    obtain ⟨front, back, hregrouped, -⟩ := x.exists_regrouped_eq file
    rw [filter_regrouped]
    exact ⟨front, back, hregrouped.symm⟩
  stable file := by
    rw [filter_regrouped, inFile_eq_filter]
    exact order.filter _
  byFirst := x.pairwise_regrouped
  lookUp file hfile := by rw [SymbolIndex.lookUp, if_pos hfile, inFile_eq_filter]
  files := x.pairwise_files
  covers t ht := exists_file (order.mem_iff.2 ht)
  found file hfile := by
    obtain ⟨t, ht, htf⟩ := List.mem_map.1 (x.areFirsts_files.found file hfile)
    exact ⟨t, order.mem_iff.1 ht, htf⟩
  positions := x.positions_perm
  ascending := pairwise_groupOf_positionsBy sameKey_equivalence Tag.file x.tags
  located _ _ := mem_groupOf_positionsBy sameKey_equivalence Tag.file x.tags

end SymbolIndex

namespace Analyzer

open Program (Outcome)

variable {a : Analyzer} {directory : Text} {rev : Value} {s : Surroundings} {t t₁ t₂ : Trace}
  {hs : List Hunk} {tags : List Tag}

/-- Once the tags of the touched files have been extracted, they are given file by file. -/
theorem tags_regroups (hhunks : (a.hunks directory rev).exec s t = (.ok hs, t₁))
    (htags : (Ctags.extract a.ctags (.ofText directory) (Hunk.files hs)).exec s t₁ = (.ok tags, t₂))
    (hkeys : ∀ t ∈ tags, t.file.isKey) :
    ∃ x : SymbolIndex, SymbolIndex.ofTags tags = .ok x ∧ x.Regroups tags ∧
      (a.tags directory rev).exec s t = (.ok x.regrouped, t₂) := by
  have hindex := SymbolIndex.ofTags_eq_ok hkeys
  have hregroups : SymbolIndex.Regroups ⟨SymbolIndex.sortByLine tags⟩ tags :=
    SymbolIndex.regroups (SymbolIndex.stableOrder_sortByLine tags) (List.mergeSort_perm ..)
  refine ⟨_, hindex, hregroups, ?_⟩
  rw [Analyzer.tags, Run.exec_bind, hhunks]
  simp only [Run.exec_bind, htags, hindex]
  rfl

/-- The records of tags, one in a line. -/
def recordsOf (tags : List Tag) : Text :=
  Text.ofLines (tags.map fun t => Json.shown {} (.table
    [("_type", .text "tag"), ("name", t.name), ("path", t.file), ("line", .int t.line)]))

/-- A commit changes two files, and the tag program lists the tags of both. -/
def twoListed (r : Program.Request) : Outcome :=
  let stdout : Text := if wordOf r = some (.text "show") then twoTouched
    else recordsOf SymbolIndex.interleaved
  .finished (some stdout) none 0

/-- The system with these answers. -/
def twoListedSystem : Surroundings where
  answer r := (twoListed r).answer
  environment := []
  depth := 985

theorem makes_hunks_twoListed (files : FileTree) : ∃ asked,
    Run.Makes twoListedSystem files (default.hunks "/repo" (.text "HEAD")) asked
      (Diff.parse twoTouched) := by
  have hanswer : ∀ r, twoListedSystem.answer r = (twoListed r).answer := fun _ => rfl
  have hheard : default.git.hearDiff twoListed "/repo" "HEAD" = .ok twoTouched := by rfl
  have hdiff : Run.Makes twoListedSystem files (Git.diff default.git "/repo" (.text "HEAD")) _
      ((default.git.hearDiff twoListed "/repo" "HEAD").map .text) := Git.makes_diff hanswer
  rw [hheard] at hdiff
  have hread : Run.Makes twoListedSystem files
      (diffText (.text twoTouched) >>= fun diff => Run.ofExcept id (Diff.parse diff)) [] _ :=
    Run.Makes.after (Run.Makes.ofExcept Failure.misuse (.ok twoTouched)) (Run.Makes.ofExcept_id _)
  unfold hunks
  exact ⟨_, hdiff.bind hread⟩

/-- A tree with both files in it. -/
def bothThere : Trace where
  files :=
    ⟨[(["repo".toList, "a.go".toList], .file []), (["repo".toList, "b.go".toList], .file [])], []⟩

theorem tags_regroups_interleaved : ∃ hs t₁ t₂,
    (default.hunks "/repo" (.text "HEAD")).exec twoListedSystem bothThere = (.ok hs, t₁) ∧
      (Ctags.extract default.ctags (.ofText "/repo") (Hunk.files hs)).exec twoListedSystem t₁ =
        (.ok SymbolIndex.interleaved, t₂) ∧
      (∀ t ∈ SymbolIndex.interleaved, t.file.isKey) ∧
      ∃ ts, (default.tags "/repo" (.text "HEAD")).exec twoListedSystem bothThere = (.ok ts, t₂) ∧
        ts.map Tag.name = [.text "New", .text "Open", .text "Close", .text "Read"] := by
  have hkeys : ∀ t ∈ SymbolIndex.interleaved, t.file.isKey := by decide
  obtain ⟨asked, hmakes⟩ := makes_hunks_twoListed bothThere.files
  obtain ⟨t₁, hhunks, -, hthere⟩ := hmakes bothThere rfl
  rw [parse_twoTouched] at hhunks
  have hlisted : Ctags.readTags 985 .json (recordsOf SymbolIndex.interleaved) =
      .ok SymbolIndex.interleaved := by decide +kernel
  have hextract : ((Ctags.extract default.ctags (.ofText "/repo")
      (["a.go".toList, "b.go".toList].map .text)).exec twoListedSystem t₁).1 =
        .ok SymbolIndex.interleaved := by
    rw [← hlisted]
    refine Ctags.exec_extract rfl rfl (fun name hname => ?_) ?_
    · rw [hthere]
      rcases List.mem_pair.1 hname with rfl | rfl
      · exact ⟨true, rfl⟩
      · exact ⟨true, rfl⟩
    · rw [hthere]
      decide
  obtain ⟨t₂, htags⟩ : ∃ t₂, (Ctags.extract default.ctags (.ofText "/repo")
      (["a.go".toList, "b.go".toList].map .text)).exec twoListedSystem t₁ =
        (.ok SymbolIndex.interleaved, t₂) := ⟨_, Prod.ext hextract rfl⟩
  obtain ⟨x, hx, -, hrun⟩ := tags_regroups hhunks htags hkeys
  rw [SymbolIndex.ofTags_eq_ok hkeys, SymbolIndex.sortByLine_interleaved] at hx
  obtain rfl := Except.ok.inj hx
  exact ⟨_, t₁, t₂, hhunks, htags, hkeys, _, hrun, by rfl⟩

end Analyzer

end ChangeFeed
