import ChangeFeed.Proofs.Analyzer.Build
import ChangeFeed.Proofs.Ctags.Asking
import ChangeFeed.Proofs.Diff.Reading
import ChangeFeed.Proofs.Git.Questions
import Mathlib.Data.List.Nodup

/-!
# A commit is asked about in turn

To make the batch of a commit, git is asked four questions and then the tag program one. `Course`
has all the ways in which that can go, and `makes_collect` says that there are no others. What they
have in common is `FailFast`, the main statement: the questions come in a fixed order, none of them
twice; the first one with trouble is the last one, and its trouble is the failure; and the tag
program is asked for exactly the touched files that are there.
-/

namespace ChangeFeed.Analyzer

open Program (Outcome)
open Question (inTurn firstTrouble? failure?)
open Run (Makes)
open Ctags (lookUp existing)

variable (a : Analyzer) (depth : Nat) (outcome : Program.Request → Outcome) (files : FileTree)
  (directory rev remote program : Text)

def gitQuestions : List Question := a.git.questions outcome directory rev remote

def tagRequest (names : List Text) : Program.Request := a.ctags.request (.ofText directory) names

/-- What the tag program says of files. -/
def hearTags (names : List Text) : Except Failure (List Tag) :=
  a.ctags.hear depth outcome program (.ofText directory) names

def tagQuestion (names : List Text) : Question :=
  .about (a.tagRequest directory names) (a.hearTags depth outcome directory program names)

/-- The touched files that are there, each one once, in the order in which they come up. -/
def existingFiles (hs : List Hunk) : List Text :=
  existing files (.ofText directory) (hs.map Hunk.path).eraseDups

/-- Each of the touched files can be looked up. -/
def Usable (hs : List Hunk) : Prop :=
  ∀ h ∈ hs, ∃ b, lookUp files (.ofText directory) h.path = .ok b

/-- What git says of the diff and of the commit: all of its four answers can be read. -/
structure Heard (diff : Text) (c : Commit) : Prop where
  diff : a.git.hearDiff outcome directory rev = .ok diff
  commit : a.git.hearCommit outcome directory rev remote = .ok c

theorem usable_of_short {hs : List Hunk}
    (h : ∀ x ∈ hs, let path := (Path.ofText directory).append (.ofText x.path)
      FileTree.byteCount path.toText ≤ FileTree.maxPathBytes ∧
      ∀ name ∈ path.names, FileTree.byteCount name ≤ FileTree.maxNameBytes) :
    Usable files directory hs := fun x hx => Ctags.exists_lookUp (h x hx).1 (h x hx).2

/-- How the questions about a commit can go. -/
inductive Course : List Question → Except Failure Batch → Prop where
  /-- The answer to a question to git makes trouble. -/
  | git {f : Failure} (hf : firstTrouble? (a.gitQuestions outcome directory rev remote) = some f) :
    Course (inTurn (a.gitQuestions outcome directory rev remote)) (.error f)
  /-- The diff cannot be read. -/
  | unreadable {diff : Text} {c : Commit} {f : Failure}
    (hg : Heard a outcome directory rev remote diff c) (hp : Diff.parse diff = .error f) :
    Course (a.gitQuestions outcome directory rev remote) (.error f)
  /-- A touched file cannot be looked up. -/
  | unusable {diff : Text} {c : Commit} {hs : List Hunk} {h : Hunk} {p : FileProblem}
    (hg : Heard a outcome directory rev remote diff c) (hp : Diff.parse diff = .ok hs)
    (hh : h ∈ hs) (hl : lookUp files (.ofText directory) h.path = .error p) :
    Course (a.gitQuestions outcome directory rev remote) (.error (.file p))
  /-- None of the touched files is there. -/
  | noFiles {diff : Text} {c : Commit} {hs : List Hunk}
    (hg : Heard a outcome directory rev remote diff c) (hp : Diff.parse diff = .ok hs)
    (hu : Usable files directory hs) (he : existingFiles files directory hs = []) :
    Course (a.gitQuestions outcome directory rev remote) (a.build diff [] c)
  /-- The tag program is asked. -/
  | tags {diff : Text} {c : Commit} {hs : List Hunk}
    (hg : Heard a outcome directory rev remote diff c) (hp : Diff.parse diff = .ok hs)
    (hu : Usable files directory hs) (he : existingFiles files directory hs ≠ []) :
    Course
      (a.gitQuestions outcome directory rev remote ++
        [a.tagQuestion depth outcome directory program (existingFiles files directory hs)])
      (a.hearTags depth outcome directory program (existingFiles files directory hs) >>= fun ts =>
        a.build diff ts c)

/-! ### The course of a run -/

/-- What is done once git has answered. -/
def finish (directory : Text) (diff : Text) (c : Commit) : Run Batch := do
  let hs ← Run.ofExcept id (Diff.parse diff)
  let files := Hunk.files hs
  let ts ← Ctags.extract a.ctags (.ofText directory) files
  Run.log .info
    ("Analyzing " ++ c.hash.display.take 8 ++ ": " ++ Text.ofNat files.length ++ " files, " ++
      Text.ofNat ts.length ++ " tags")
  a.buildReported diff ts c

theorem collect_eq (rev : Value) : a.collect directory rev = (do
    let diff ← Git.diff a.git directory rev
    let c ← Git.commit a.git directory rev
    let diff ← diffText diff
    a.finish directory diff c) := rfl

variable {a depth outcome files directory rev remote program} {s : Surroundings} {diff : Text}
  {c : Commit}
  {hs : List Hunk}

theorem makes_report (found : Findings) : Makes s files (a.report found) [] (.ok ()) := by
  unfold report
  refine (Makes.log .debug _).after ?_
  cases a.references with
  | false => exact Makes.log .debug _
  | true => exact (Makes.log .debug _).after (Makes.log .debug _)

theorem makes_buildReported (tags : List Tag) :
    Makes s files (a.buildReported diff tags c) [] (a.build diff tags c) :=
  (Makes.ofExcept_id (a.examine diff tags)).andThen fun found _ =>
    (makes_report found).after (Makes.ofExcept_id _)

theorem makes_finish_unreadable {f : Failure} (hp : Diff.parse diff = .error f) :
    Makes s files (a.finish directory diff c) [] (.error f) := by
  have hparse : Makes s files (Run.ofExcept id (Diff.parse diff)) [] _ :=
    Makes.ofExcept_id (Diff.parse diff)
  rw [hp] at hparse
  unfold finish
  rw [hp]
  exact hparse.bind_error

theorem makes_finish {asked : List Program.Request} {x : Except Failure (List Tag)}
    (hp : Diff.parse diff = .ok hs)
    (hx : Makes s files
      (Ctags.extract a.ctags (.ofText directory) ((hs.map Hunk.path).eraseDups.map .text))
      asked x) :
    Makes s files (a.finish directory diff c) asked (x >>= fun ts => a.build diff ts c) := by
  unfold finish
  rw [hp]
  refine (Makes.ofExcept_id (.ok hs)).after ?_
  rw [Hunk.files_of_isRead (Diff.isRead_of_parse hp)]
  exact hx.andThen fun ts _ => (Makes.log .info _).after (makes_buildReported ts)

theorem firstTrouble?_of_heard (h : Heard a outcome directory rev remote diff c) :
    firstTrouble? (a.gitQuestions outcome directory rev remote) = none := by
  rw [gitQuestions, Git.Client.firstTrouble?_questions, h.diff, h.commit]
  rfl

theorem exists_heard (h : firstTrouble? (a.gitQuestions outcome directory rev remote) = none) :
    ∃ diff c, Heard a outcome directory rev remote diff c := by
  rw [gitQuestions, Git.Client.firstTrouble?_questions, Question.failure?_eq_none_iff] at h
  obtain ⟨c, hc⟩ := h
  obtain ⟨diff, hd, hc⟩ := bind_eq_ok_iff.1 hc
  exact ⟨diff, c, hd, hc⟩

theorem makes_git (hanswer : ∀ q, s.answer q = (outcome q).answer)
    (hremote : a.git.remote = .text remote) {asked : List Program.Request}
    {x : Except Failure Batch} (h : Heard a outcome directory rev remote diff c)
    (hx : Makes s files (a.finish directory diff c) asked x) :
    Makes s files (a.collect directory (.text rev))
      ((a.gitQuestions outcome directory rev remote).map Question.request ++ asked) x := by
  have hdiff : Makes s files (Git.diff a.git directory (.text rev)) _ _ := Git.makes_diff hanswer
  have hcommit : Makes s files (Git.commit a.git directory (.text rev)) _ _ :=
    Git.makes_commit hanswer hremote
  have hself : inTurn (a.git.commitQuestions outcome directory rev remote) =
      a.git.commitQuestions outcome directory rev remote := by
    refine Question.inTurn_eq_self (Question.firstTrouble?_eq_none_iff.1 ?_)
    rw [Git.Client.firstTrouble?_commitQuestions, h.commit]
    rfl
  rw [h.diff] at hdiff
  rw [h.commit, hself] at hcommit
  rw [collect_eq]
  exact hdiff.bind (hcommit.bind ((Makes.ofExcept Failure.misuse (.ok diff)).after hx))

theorem makes_git_error (hanswer : ∀ q, s.answer q = (outcome q).answer)
    (hremote : a.git.remote = .text remote) {f : Failure}
    (hf : firstTrouble? (a.gitQuestions outcome directory rev remote) = some f) :
    Makes s files (a.collect directory (.text rev))
      ((inTurn (a.gitQuestions outcome directory rev remote)).map Question.request)
      (.error f) := by
  have hdiff : Makes s files (Git.diff a.git directory (.text rev)) _ _ := Git.makes_diff hanswer
  have hcommit : Makes s files (Git.commit a.git directory (.text rev)) _ _ :=
    Git.makes_commit hanswer hremote
  rw [gitQuestions, Git.Client.firstTrouble?_questions, Question.failure?_eq_some_iff] at hf
  rw [collect_eq, gitQuestions, Git.Client.questions]
  cases hd : a.git.hearDiff outcome directory rev with
  | error g =>
    rw [hd] at hf hdiff
    cases hf
    rw [Question.inTurn_about_error]
    exact hdiff.bind_error
  | ok diff =>
    rw [hd] at hf hdiff
    rw [Question.inTurn_about_ok, List.map_cons]
    change a.git.hearCommit outcome directory rev remote = .error f at hf
    rw [hf] at hcommit
    exact hdiff.bind hcommit.bind_error

/-- The questions about a commit go in one of the ways of `Course`. -/
theorem makes_collect (hanswer : ∀ q, s.answer q = (outcome q).answer)
    (hremote : a.git.remote = .text remote) (hprogram : a.ctags.program = .text program) :
    ∃ asked x, Course a s.depth outcome files directory rev remote program asked x ∧
      Makes s files (a.collect directory (.text rev)) (asked.map Question.request) x := by
  cases hf : firstTrouble? (a.gitQuestions outcome directory rev remote) with
  | some f => exact ⟨_, _, .git hf, makes_git_error hanswer hremote hf⟩
  | none =>
    obtain ⟨diff, c, hg⟩ := exists_heard hf
    cases hp : Diff.parse diff with
    | error f =>
      have hfinish : Makes s files (a.finish directory diff c) [] (.error f) :=
        makes_finish_unreadable hp
      have hall := makes_git hanswer hremote hg hfinish
      rw [List.append_nil] at hall
      exact ⟨_, _, .unreadable hg hp, hall⟩
    | ok hs =>
      by_cases hu : Usable files directory hs
      · have hnames : ∀ name ∈ (hs.map Hunk.path).eraseDups,
            ∃ b, lookUp files (.ofText directory) name = .ok b := by
          intro name hname
          obtain ⟨h, hh, rfl⟩ := List.mem_map.1 (List.mem_eraseDups.1 hname)
          exact hu h hh
        have hall := makes_git hanswer hremote hg
          (makes_finish hp (Ctags.makes_extract (hanswer _) hprogram hnames))
        by_cases he : existingFiles files directory hs = []
        · rw [existingFiles] at he
          rw [he, if_pos rfl, if_pos rfl, List.append_nil] at hall
          exact ⟨_, _, .noFiles hg hp hu he, hall⟩
        · refine ⟨_, _, .tags hg hp hu he, ?_⟩
          rw [existingFiles] at he
          rw [if_neg he, if_neg he] at hall
          rw [List.map_append]
          exact hall
      · have hbad : ∃ name ∈ (hs.map Hunk.path).eraseDups,
            ∃ p, lookUp files (.ofText directory) name = .error p := by
          simp only [Usable, not_forall] at hu
          obtain ⟨h, hh, hne⟩ := hu
          refine ⟨h.path, List.mem_eraseDups.2 (List.mem_map_of_mem hh), ?_⟩
          cases hl : lookUp files (.ofText directory) h.path with
          | error p => exact ⟨p, rfl⟩
          | ok b => exact absurd ⟨b, hl⟩ hne
        obtain ⟨name, hname, p, hl, hx⟩ := Ctags.makes_extract_error (c := a.ctags) (s := s) hbad
        obtain ⟨h, hh, rfl⟩ := List.mem_map.1 (List.mem_eraseDups.1 hname)
        have hall := makes_git hanswer hremote hg (makes_finish hp hx)
        rw [List.append_nil] at hall
        exact ⟨_, _, .unusable hg hp hh hl, hall⟩

/-! ### Requests -/

/-- The word behind the name of the program, which tells the five questions apart. -/
def wordOf (r : Program.Request) : Option Value :=
  match r.command with
  | .list (_ :: word :: _) => some word
  | _ => none

theorem wordOf_tagRequest (a : Analyzer) (directory : Text) (names : List Text) :
    wordOf (a.tagRequest directory names) = some (.text "--output-format=json".toList) ∨
      wordOf (a.tagRequest directory names) = some (.text "-e".toList) := by
  unfold tagRequest Ctags.Client.request Ctags.Client.command
  cases a.ctags.format with
  | json => exact .inl rfl
  | etags => exact .inr rfl

theorem wordOf_gitQuestions :
    ((a.gitQuestions outcome directory rev remote).map Question.request).map wordOf =
      ["show".toList, "rev-parse".toList, "log".toList, "remote".toList].map (some ∘ .text) := rfl

theorem tagRequest_not_mem (names : List Text) : a.tagRequest directory names ∉
    (a.gitQuestions outcome directory rev remote).map Question.request := by
  intro h
  have hword := List.mem_map_of_mem (f := wordOf) h
  rw [wordOf_gitQuestions] at hword
  rcases wordOf_tagRequest a directory names with hw | hw <;>
  · rw [hw] at hword
    revert hword
    decide

theorem tagRequest_inj {names names' : List Text}
    (h : a.tagRequest directory names = a.tagRequest directory names') : names = names' := by
  have hcommand : a.ctags.command names = a.ctags.command names' := congrArg (·.command) h
  have hwords := Value.list.inj hcommand
  have htexts := List.map_injective_iff.2 (fun _ _ => Value.text.inj) (List.cons.inj hwords).2
  exact List.append_cancel_left htexts

theorem nodup_requests (names : List Text) :
    ((a.gitQuestions outcome directory rev remote ++
      [a.tagQuestion depth outcome directory program names]).map Question.request).Nodup := by
  refine List.Nodup.of_map wordOf ?_
  rw [List.map_append, List.map_append, wordOf_gitQuestions]
  change (_ ++ [wordOf (a.tagRequest directory names)]).Nodup
  rcases wordOf_tagRequest a directory names with hw | hw <;>
  · rw [hw]
    decide

/-! ### What all courses have in common -/

/-- Questions that are asked in turn, fail fast, and ask the tag program for the right files. -/
structure FailFast (a : Analyzer) (depth : Nat) (outcome : Program.Request → Outcome)
    (files : FileTree) (directory rev remote program : Text) (asked : List Question)
    (x : Except Failure Batch) : Prop where
  /-- Git is asked first, in a fixed order, and then the tag program. -/
  order : ∃ names, asked <+: a.gitQuestions outcome directory rev remote ++
    [a.tagQuestion depth outcome directory program names]
  once : (asked.map Question.request).Nodup
  /-- Nothing is asked after trouble. -/
  quiet : ∀ q ∈ asked.dropLast, q.trouble? = none
  /-- Trouble is the failure. -/
  trouble : ∀ q ∈ asked, ∀ f, q.trouble? = some f → x = .error f
  /-- Without trouble git is asked all four questions. -/
  onward : (∀ q ∈ asked, q.trouble? = none) →
    a.gitQuestions outcome directory rev remote <+: asked
  /-- The tag program is asked if git has answered and some of the touched files are there, and it
  is asked for these. -/
  tags : ∀ names, a.tagRequest directory names ∈ asked.map Question.request ↔
    ∃ diff c hs, Heard a outcome directory rev remote diff c ∧ Diff.parse diff = .ok hs ∧
      Usable files directory hs ∧ existingFiles files directory hs = names ∧ names ≠ []
  /-- A diff that cannot be read is a failure of its own: a number in it is too long. -/
  unreadable : ∀ diff c f, Heard a outcome directory rev remote diff c →
    Diff.parse diff = .error f → ∃ p, f = .numeral p ∧ x = .error (.numeral p)
  /-- So is a touched file that cannot be looked up, which is one with too long a name. -/
  unusable : ∀ diff c hs, Heard a outcome directory rev remote diff c →
    Diff.parse diff = .ok hs → ¬Usable files directory hs → ∃ h ∈ hs,
      x = .error (.file (.nameTooLong ((Path.ofText directory).append (.ofText h.path)).toText))
  /-- Otherwise the batch is made of what has been heard. -/
  built : ∀ diff c hs, Heard a outcome directory rev remote diff c →
    Diff.parse diff = .ok hs → Usable files directory hs →
    x = (if existingFiles files directory hs = [] then .ok []
      else a.hearTags depth outcome directory program (existingFiles files directory hs)) >>=
        fun ts => a.build diff ts c

theorem Heard.unique {diff' : Text} {c' : Commit} (h : Heard a outcome directory rev remote diff c)
    (h' : Heard a outcome directory rev remote diff' c') : diff = diff' ∧ c = c' :=
  ⟨Except.ok.inj (h.diff.symm.trans h'.diff), Except.ok.inj (h.commit.symm.trans h'.commit)⟩

theorem Heard.trouble? (h : Heard a outcome directory rev remote diff c) :
    ∀ q ∈ a.gitQuestions outcome directory rev remote, q.trouble? = none :=
  Question.firstTrouble?_eq_none_iff.1 (firstTrouble?_of_heard h)

theorem Course.exists_inTurn {asked : List Question} {x : Except Failure Batch}
    (h : Course a depth outcome files directory rev remote program asked x) :
    ∃ names more, more <+: [a.tagQuestion depth outcome directory program names] ∧
      asked = inTurn (a.gitQuestions outcome directory rev remote ++ more) ∧
      ∀ f, firstTrouble? (a.gitQuestions outcome directory rev remote ++ more) = some f →
        x = .error f := by
  cases h with
  | git hf =>
    refine ⟨[], [], List.nil_prefix, ?_⟩
    rw [List.append_nil, hf]
    exact ⟨rfl, fun f h => congrArg _ (Option.some.inj h)⟩
  | unreadable hg _ | unusable hg _ _ _ | noFiles hg _ _ _ =>
    refine ⟨[], [], List.nil_prefix, ?_⟩
    rw [List.append_nil, Question.inTurn_eq_self hg.trouble?, firstTrouble?_of_heard hg]
    exact ⟨rfl, nofun⟩
  | @tags diff c hs hg hp hu he =>
    refine ⟨existingFiles files directory hs, _, List.prefix_rfl, ?_, fun f hf => ?_⟩
    · rw [Question.inTurn_of_trouble? hg.trouble?, tagQuestion, Question.inTurn_singleton]
    · rw [firstTrouble?, List.findSome?_append, ← firstTrouble?, firstTrouble?_of_heard hg,
        Option.none_or, List.findSome?_singleton, tagQuestion, Question.about,
        Question.failure?_eq_some_iff] at hf
      rw [hf]
      rfl

theorem Course.tagRequest_mem_iff {asked : List Question} {x : Except Failure Batch}
    (h : Course a depth outcome files directory rev remote program asked x) (names : List Text) :
    a.tagRequest directory names ∈ asked.map Question.request ↔
      ∃ diff c hs, Heard a outcome directory rev remote diff c ∧ Diff.parse diff = .ok hs ∧
        Usable files directory hs ∧ existingFiles files directory hs = names ∧ names ≠ [] := by
  have hgit : a.tagRequest directory names ∉
      (a.gitQuestions outcome directory rev remote).map Question.request :=
    tagRequest_not_mem names
  cases h with
  | git hf =>
    refine ⟨fun hmem => ?_, ?_⟩
    · exact absurd (((Question.inTurn_isPrefix _).sublist.map _).subset hmem) hgit
    · rintro ⟨diff, c, hs, hg, -⟩
      rw [firstTrouble?_of_heard hg] at hf
      cases hf
  | unreadable hg hp =>
    refine ⟨fun hmem => absurd hmem hgit, ?_⟩
    rintro ⟨diff', c', hs', hg', hp', -⟩
    obtain ⟨rfl, rfl⟩ := hg.unique hg'
    rw [hp] at hp'
    cases hp'
  | unusable hg hp hh hl =>
    refine ⟨fun hmem => absurd hmem hgit, ?_⟩
    rintro ⟨diff', c', hs', hg', hp', hu', -⟩
    obtain ⟨rfl, rfl⟩ := hg.unique hg'
    rw [hp] at hp'
    cases hp'
    obtain ⟨b, hb⟩ := hu' _ hh
    rw [hl] at hb
    cases hb
  | noFiles hg hp hu he =>
    refine ⟨fun hmem => absurd hmem hgit, ?_⟩
    rintro ⟨diff', c', hs', hg', hp', -, he', hne⟩
    obtain ⟨rfl, rfl⟩ := hg.unique hg'
    rw [hp] at hp'
    cases hp'
    exact absurd (he'.symm.trans he) hne
  | @tags diff c hs hg hp hu he =>
    rw [List.map_append, List.mem_append, or_iff_right hgit]
    constructor
    · intro hmem
      have hnames := tagRequest_inj (List.mem_singleton.1 hmem)
      exact ⟨diff, c, hs, hg, hp, hu, hnames.symm, hnames ▸ he⟩
    · rintro ⟨diff', c', hs', hg', hp', -, rfl, -⟩
      obtain ⟨rfl, rfl⟩ := hg.unique hg'
      rw [hp] at hp'
      cases hp'
      exact List.mem_singleton.2 rfl

theorem Course.result_cases {asked : List Question} {x : Except Failure Batch}
    (h : Course a depth outcome files directory rev remote program asked x)
    (hg : Heard a outcome directory rev remote diff c) :
    (∃ f, Diff.parse diff = .error f ∧ x = .error f) ∨
    ∃ hs, Diff.parse diff = .ok hs ∧
      ((∃ h ∈ hs, ∃ p, lookUp files (.ofText directory) h.path = .error p ∧ x = .error (.file p)) ∨
      Usable files directory hs ∧
        x = (if existingFiles files directory hs = [] then .ok []
          else a.hearTags depth outcome directory program (existingFiles files directory hs)) >>=
            fun ts => a.build diff ts c) := by
  cases h with
  | git hf =>
    rw [firstTrouble?_of_heard hg] at hf
    cases hf
  | unreadable hg' hp =>
    obtain ⟨rfl, rfl⟩ := hg.unique hg'
    exact .inl ⟨_, hp, rfl⟩
  | unusable hg' hp hh hl =>
    obtain ⟨rfl, rfl⟩ := hg.unique hg'
    exact .inr ⟨_, hp, .inl ⟨_, hh, _, hl, rfl⟩⟩
  | noFiles hg' hp hu he =>
    obtain ⟨rfl, rfl⟩ := hg.unique hg'
    refine .inr ⟨_, hp, .inr ⟨hu, ?_⟩⟩
    rw [if_pos he]
    rfl
  | tags hg' hp hu he =>
    obtain ⟨rfl, rfl⟩ := hg.unique hg'
    refine .inr ⟨_, hp, .inr ⟨hu, ?_⟩⟩
    rw [if_neg he]

theorem Course.failFast {asked : List Question} {x : Except Failure Batch}
    (h : Course a depth outcome files directory rev remote program asked x) :
    FailFast a depth outcome files directory rev remote program asked x := by
  obtain ⟨names, more, hmore, hasked, hx⟩ := h.exists_inTurn
  have horder : asked <+: a.gitQuestions outcome directory rev remote ++
      [a.tagQuestion depth outcome directory program names] :=
    hasked ▸ (Question.inTurn_isPrefix _).trans ((List.prefix_append_right_inj _).2 hmore)
  constructor
  case order => exact ⟨names, horder⟩
  case once => exact (nodup_requests names).sublist (horder.sublist.map _)
  case quiet =>
    rw [hasked]
    exact fun q => Question.trouble?_of_mem_dropLast
  case trouble =>
    intro q hq f hf
    rw [hasked] at hq
    exact hx f (Question.firstTrouble?_of_mem_inTurn hq hf)
  case onward =>
    intro hq
    rw [hasked] at hq ⊢
    rw [Question.inTurn_eq_self_of_inTurn hq]
    exact List.prefix_append _ _
  case tags => exact h.tagRequest_mem_iff
  case unreadable =>
    intro diff c f hg hp
    rcases h.result_cases hg with ⟨q, hq, hx⟩ | ⟨hs, hq, -⟩
    · rw [hp] at hq
      cases hq
      obtain ⟨p, rfl⟩ := Diff.exists_of_parse_eq_error hp
      exact ⟨p, rfl, hx⟩
    · rw [hp] at hq
      cases hq
  case unusable =>
    intro diff c hs hg hp hu
    rcases h.result_cases hg with ⟨q, hq, -⟩ | ⟨hs', hq, ⟨h, hh, p, hl, hx⟩ | ⟨hu', -⟩⟩
    · rw [hp] at hq
      cases hq
    · rw [hp] at hq
      cases hq
      exact ⟨h, hh, hx.trans (by rw [Ctags.nameTooLong_of_lookUp hl])⟩
    · rw [hp] at hq
      cases hq
      exact absurd hu' hu
  case built =>
    intro diff c hs hg hp hu
    rcases h.result_cases hg with ⟨q, hq, -⟩ | ⟨hs', hq, ⟨h, hh, p, hl, -⟩ | ⟨-, hx⟩⟩
    · rw [hp] at hq
      cases hq
    · rw [hp] at hq
      cases hq
      obtain ⟨b, hb⟩ := hu h hh
      rw [hl] at hb
      cases hb
    · rw [hp] at hq
      cases hq
      exact hx

/-- Whatever comes of the five programs, a commit is asked about in turn: the run stops at the first
trouble and fails with it, and the tag program is asked for the touched files that are there. -/
theorem collect_failFast (hremote : a.git.remote = .text remote)
    (hprogram : a.ctags.program = .text program) (hanswer : ∀ q, s.answer q = (outcome q).answer)
    (directory rev : Text) (t : Trace) :
    ∃ asked : List Question,
      ((a.collect directory (.text rev)).exec s t).2.requests =
        t.requests ++ asked.map Question.request ∧
      FailFast a s.depth outcome t.files directory rev remote program asked
        ((a.collect directory (.text rev)).exec s t).1 := by
  have hcollect : ∃ asked x, Course a s.depth outcome t.files directory rev remote program asked x ∧
      Makes s t.files (a.collect directory (.text rev)) (asked.map Question.request) x :=
    makes_collect hanswer hremote hprogram
  obtain ⟨asked, x, hcourse, hmakes⟩ := hcollect
  obtain ⟨t', hexec, hasked, -⟩ := hmakes t rfl
  rw [hexec]
  exact ⟨asked, hasked, hcourse.failFast⟩

/-- A commit that changes two files, of which the second one is gone. -/
def twoTouched : Text :=
  "diff --git a/a.go b/a.go\n@@ -1 +1 @@\n-x\n+y\ndiff --git a/b.go b/b.go\n@@ -1 +0,0 @@\n-x"

theorem parse_twoTouched : Diff.parse twoTouched = .ok [
    ⟨.text "a.go", 1, 1, 1, 1, [⟨1, "x"⟩], [⟨1, "y"⟩]⟩,
    ⟨.text "b.go", 1, 1, 0, -1, [⟨1, "x"⟩], []⟩] := by decide +kernel

/-- Programs that all do as they are asked. -/
def obliging (r : Program.Request) : Outcome :=
  let stdout : Text := match wordOf r with
    | some (.text word) =>
      if word = "show".toList then twoTouched
      else if word = "rev-parse".toList then "4b825dc\n"
      else if word = "log".toList then "Jane Doe|jane@example.com|1705314600\n"
      else if word = "remote".toList then
        "Fetch URL: git@github.com:acme/app.git\nHEAD branch: main"
      else []
    | _ => []
  .finished (some stdout) none 0

theorem collect_asks_existing :
    let s : Surroundings := {
      answer := fun q => (obliging q).answer, environment := [], depth := 985 }
    let t : Trace := { files := ⟨[(["repo".toList, "a.go".toList], .file [])], []⟩ }
    ∃ asked : List Question,
      ((default.collect "/repo" (.text "HEAD")).exec s t).2.requests = asked.map Question.request ∧
      FailFast default s.depth obliging t.files "/repo" "HEAD" "origin" "ctags" asked
        ((default.collect "/repo" (.text "HEAD")).exec s t).1 ∧
      default.tagRequest "/repo" ["a.go".toList] ∈ asked.map Question.request := by
  intro s t
  have hanswer : ∀ q, s.answer q = (obliging q).answer := fun _ => rfl
  have hremote : default.git.remote = .text "origin" := rfl
  have hprogram : default.ctags.program = .text "ctags" := rfl
  obtain ⟨asked, hasked, hfast⟩ := collect_failFast hremote hprogram hanswer "/repo" "HEAD" t
  refine ⟨asked, hasked, hfast, (hfast.tags ["a.go".toList]).2 ?_⟩
  have hgit : firstTrouble? (default.gitQuestions obliging "/repo" "HEAD" "origin") = none := by
    rfl
  obtain ⟨diff, c, hg⟩ := exists_heard hgit
  have hdiff : default.git.hearDiff obliging "/repo" "HEAD" = .ok twoTouched := by rfl
  obtain rfl : twoTouched = diff := Except.ok.inj (hdiff.symm.trans hg.diff)
  refine ⟨_, c, _, hg, parse_twoTouched, fun h hh => ?_, rfl, List.cons_ne_nil _ _⟩
  rcases List.mem_pair.1 hh with rfl | rfl
  · exact ⟨true, rfl⟩
  · exact ⟨false, rfl⟩

end ChangeFeed.Analyzer
