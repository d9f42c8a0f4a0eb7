import ChangeFeed.Ctags.Client
import ChangeFeed.Proofs.Outcome
import ChangeFeed.Proofs.Program.Outcome

/-!
# The question to the tag program

The tag program is asked for the files that are there, once and all together; without such a file it
is not asked at all (`makes_extract`). A file whose path cannot be looked up, because a name in it
is too long, is not one that is missing: nothing is asked then, and that is the failure
(`makes_extract_error`).
-/

namespace ChangeFeed.Ctags

open Program (Outcome)
open Run (Makes)

namespace Client

/-- How failed commands are reported. -/
def reports (c : Client) : Program.Reports where
  failed detail := .ctags (.failed c.program.display detail)
  timedOut := .ctags (.timedOut c.program.display c.limit)
  notRun reason := .ctags (.notRun c.program.display reason)

def request (c : Client) (directory : Path) (files : List Text) : Program.Request :=
  ⟨c.command files, .text directory.toText, c.limit⟩

end Client

/-- The tags in an output. -/
def readTags (depth : Nat) : Format → Text → Except Failure (List Tag)
  | .json, t => tagsOfText depth t
  | .etags, t => ((Etags.parse t).map Etags.Session.tags).mapError .etags

/-- The tags that the tag program has for files, or the report of what went wrong. -/
def Client.hear (c : Client) (depth : Nat) (outcome : Program.Request → Outcome) (program : Text)
    (directory : Path) (files : List Text) : Except Failure (List Tag) :=
  c.reports.read (program :: (c.format.arguments ++ files)) c.limit
    (outcome (c.request directory files)) >>= readTags depth c.format

/-- Whether a path leads to a file. -/
def lookUp (files : FileTree) (directory : Path) (file : Text) : Except FileProblem Bool :=
  files.isFile (directory.append (.ofText file))

/-- The files that are there. -/
def existing (files : FileTree) (directory : Path) (names : List Text) : List Text :=
  names.filter fun name => (lookUp files directory name).toOption.getD false

variable {c : Client} {s : Surroundings} {files : FileTree} {outcome : Program.Request → Outcome}
  {program : Text} {directory : Path} {names : List Text}

theorem explain_reports (c : Client) (program : Text) (arguments : List Text) :
    c.reports.Explain (explain c) (program :: arguments) c.limit where
  failed stderr code := by
    rw [explain, Program.told_captured]
    rfl
  timedOut := rfl
  missing _ := rfl
  forbidden _ := rfl
  interrupted := rfl
  tooLarge := rfl

theorem makes_warnings (warnings : List Text) :
    Makes s files (warnings.forM (Run.log .warning)) [] (.ok ()) := by
  induction warnings with
  | nil => exact Makes.pure ()
  | cons w ws ih => exact (Makes.log .warning w).after ih

theorem makes_readOutput (format : Format) {v : Value} {t : Text} (hv : Program.given v = .text t) :
    Makes s files (readOutput format v) [] (readTags s.depth format t) := by
  cases format with
  | json =>
    change Makes s files (Run.ofExcept .misuse ((Program.given v).textFor "splitlines") >>= fun t =>
      (read : Run Surroundings) >>= fun s => Run.ofExcept id (tagsOfText s.depth t)) [] _
    rw [hv]
    refine (Makes.ofExcept Failure.misuse (.ok t)).after ?_
    exact Makes.read.after (Makes.ofExcept_id (tagsOfText s.depth t))
  | etags =>
    change Makes s files (Run.ofExcept .misuse ((Program.given v).textFor "split") >>= fun t =>
      Run.ofExcept .etags (Etags.parse t) >>= fun s =>
        s.warnings.forM (Run.log .warning) >>= fun _ => pure s.tags) [] _
    rw [hv]
    refine (Makes.ofExcept Failure.misuse (.ok t)).after ?_
    have hparse : Makes s files (Run.ofExcept Failure.etags (Etags.parse t)) [] _ :=
      Makes.ofExcept Failure.etags (Etags.parse t)
    change Makes s files _ [] (((Etags.parse t).map Etags.Session.tags).mapError Failure.etags)
    cases hp : Etags.parse t with
    | error p =>
      rw [hp] at hparse
      exact hparse.bind_error
    | ok session =>
      rw [hp] at hparse
      exact hparse.after ((makes_warnings session.warnings).after (Makes.pure _))

/-! ### Files that are there -/

theorem walk_ne_tooLong {names : List Text}
    (h : ∀ name ∈ names, FileTree.byteCount name ≤ FileTree.maxNameBytes) (place : List Text) :
    files.walk place names ≠ .tooLong := by
  induction names generalizing place with
  | nil => nofun
  | cons name names ih =>
    obtain ⟨hname, hrest⟩ := List.forall_mem_cons.1 h
    unfold FileTree.walk
    cases files.node? place with
    | none => nofun
    | some node =>
      cases node with
      | file content => nofun
      | directory =>
        change (if name = ['.', '.'] then files.walk place.dropLast names
          else if FileTree.maxNameBytes < FileTree.byteCount name then .tooLong
          else files.walk (place ++ [name]) names) ≠ .tooLong
        rw [if_neg (Nat.not_lt.2 hname)]
        split
        · exact ih hrest _
        · exact ih hrest _

theorem exists_lookUp {file : Text}
    (hpath : FileTree.byteCount (directory.append (.ofText file)).toText ≤ FileTree.maxPathBytes)
    (hnames : ∀ name ∈ (directory.append (.ofText file)).names,
      FileTree.byteCount name ≤ FileTree.maxNameBytes) :
    ∃ b, lookUp files directory file = .ok b := by
  have hfollow : files.follow (directory.append (.ofText file)) ≠ .tooLong := by
    unfold FileTree.follow
    rw [if_neg (Nat.not_lt.2 hpath)]
    split
    · nofun
    · exact walk_ne_tooLong hnames _
  unfold lookUp FileTree.isFile FileTree.find?
  cases hf : files.follow (directory.append (.ofText file)) with
  | tooLong => exact absurd hf hfollow
  | reached place => exact ⟨_, rfl⟩
  | missing => exact ⟨_, rfl⟩
  | blocked => exact ⟨_, rfl⟩
  | impossible => exact ⟨_, rfl⟩

theorem nameTooLong_of_lookUp {file : Text} {p : FileProblem}
    (h : lookUp files directory file = .error p) :
    p = .nameTooLong (directory.append (.ofText file)).toText := by
  unfold lookUp FileTree.isFile FileTree.find? at h
  cases hf : files.follow (directory.append (.ofText file)) with
  | tooLong =>
    rw [hf] at h
    exact (Except.error.inj h).symm
  | reached place | missing | blocked | impossible =>
    rw [hf] at h
    cases h

theorem existing_cons {name : Text} {b : Bool} (hb : lookUp files directory name = .ok b) :
    existing files directory (name :: names) =
      if b then name :: existing files directory names else existing files directory names := by
  unfold existing
  rw [List.filter_cons, hb]
  rfl

theorem makes_present_cons {name : Text} {b : Bool} {vs : List Value}
    {x : Except Failure (List Text)} (hb : lookUp files directory name = .ok b)
    (h : Makes s files (present directory vs) [] x) :
    Makes s files (present directory (.text name :: vs)) []
      (if b then x.map (name :: ·) else x) := by
  have hlook : Makes s files (Run.ofExcept Failure.file (lookUp files directory name)) [] _ :=
    Makes.ofExcept Failure.file (lookUp files directory name)
  rw [hb] at hlook
  unfold present
  refine Makes.get fun t ht => ?_
  rw [ht]
  change Makes s files (Run.ofExcept .file (lookUp files directory name) >>= _) [] _
  rw [hb]
  refine hlook.after ?_
  cases b with
  | false => exact (Makes.log .debug _).after h
  | true =>
    change Makes s files (present directory vs >>= fun rest => pure (name :: rest)) [] (x.map _)
    rw [← bind_ok_eq_map]
    exact h.andThen fun rest _ => Makes.pure _

theorem makes_present_cons_error {name : Text} {p : FileProblem} {vs : List Value}
    (hp : lookUp files directory name = .error p) :
    Makes s files (present directory (.text name :: vs)) [] (.error (.file p)) := by
  have hlook : Makes s files (Run.ofExcept Failure.file (lookUp files directory name)) [] _ :=
    Makes.ofExcept Failure.file (lookUp files directory name)
  rw [hp] at hlook
  unfold present
  refine Makes.get fun t ht => ?_
  rw [ht]
  change Makes s files (Run.ofExcept .file (lookUp files directory name) >>= _) [] _
  rw [hp]
  exact hlook.bind_error

theorem makes_present (h : ∀ name ∈ names, ∃ b, lookUp files directory name = .ok b) :
    Makes s files (present directory (names.map .text)) []
      (.ok (existing files directory names)) := by
  induction names with
  | nil => exact Makes.pure []
  | cons name names ih =>
    obtain ⟨⟨b, hb⟩, hrest⟩ := List.forall_mem_cons.1 h
    have hcons := makes_present_cons hb (ih hrest)
    rw [existing_cons hb]
    cases b with
    | false => exact hcons
    | true => exact hcons

theorem makes_present_error (h : ∃ name ∈ names, ∃ p, lookUp files directory name = .error p) :
    ∃ name ∈ names, ∃ p, lookUp files directory name = .error p ∧
      Makes s files (present directory (names.map .text)) [] (.error (.file p)) := by
  induction names with
  | nil =>
    obtain ⟨name, hname, -⟩ := h
    cases hname
  | cons name names ih =>
    cases hb : lookUp files directory name with
    | error p => exact ⟨name, List.mem_cons_self, p, hb, makes_present_cons_error hb⟩
    | ok b =>
      have hrest : ∃ name ∈ names, ∃ p, lookUp files directory name = .error p := by
        obtain ⟨other, hother, p, hp⟩ := h
        rcases List.mem_cons.1 hother with rfl | hother
        · rw [hb] at hp
          cases hp
        · exact ⟨other, hother, p, hp⟩
      obtain ⟨other, hother, p, hp, hmakes⟩ := ih hrest
      have hcons := makes_present_cons hb hmakes
      refine ⟨other, List.mem_cons_of_mem name hother, p, hp, ?_⟩
      cases b with
      | false => exact hcons
      | true => exact hcons

/-! ### The question -/

theorem makes_extract (hs : s.answer (c.request directory (existing files directory names)) =
      (outcome (c.request directory (existing files directory names))).answer)
    (hprogram : c.program = .text program)
    (h : ∀ name ∈ names, ∃ b, lookUp files directory name = .ok b) :
    Makes s files (extract c directory (names.map .text))
      (if existing files directory names = [] then []
        else [c.request directory (existing files directory names)])
      (if existing files directory names = [] then .ok []
        else c.hear s.depth outcome program directory (existing files directory names)) := by
  refine (makes_present h).after ?_
  cases hkept : existing files directory names with
  | nil => exact Makes.pure []
  | cons name rest =>
    have hcommand : c.command (name :: rest) =
        .list ((program :: (c.format.arguments ++ (name :: rest))).map .text) := by
      unfold Client.command
      rw [hprogram]
      rfl
    rw [if_neg (List.cons_ne_nil name rest), if_neg (List.cons_ne_nil name rest)]
    rw [hkept] at hs
    unfold Client.request at hs
    unfold Client.hear Client.request
    rw [hcommand] at hs ⊢
    refine Program.makes_asking
      (o := { directory := .text directory.toText, capture := true, limit := c.limit })
      (explain_reports c program (c.format.arguments ++ (name :: rest))) rfl rfl hs
      (y := readTags s.depth c.format) fun v t hv => ?_
    have hread : Makes s files (readOutput c.format v.1) [] _ := makes_readOutput c.format hv
    rw [← bind_pure (readTags s.depth c.format t)]
    exact hread.andThen fun tags _ => (Makes.log .debug _).after (Makes.pure tags)

theorem exec_extract {t : Trace} {stdout : Text} {stderr : Option Text}
    (hs : s.answer (c.request directory (existing t.files directory names)) =
      (Outcome.finished (some stdout) stderr 0).answer)
    (hprogram : c.program = .text program)
    (h : ∀ name ∈ names, ∃ b, lookUp t.files directory name = .ok b)
    (hne : existing t.files directory names ≠ []) :
    ((extract c directory (names.map .text)).exec s t).1 = readTags s.depth c.format stdout := by
  let outcome : Program.Request → Outcome := fun _ => .finished (some stdout) stderr 0
  have hmakes : Makes s t.files (extract c directory (names.map .text)) _ _ :=
    makes_extract (show _ = (outcome _).answer from hs) hprogram h
  rw [if_neg hne, if_neg hne] at hmakes
  obtain ⟨t', hexec, -⟩ := hmakes t rfl
  rw [hexec]
  rfl

theorem makes_extract_error (h : ∃ name ∈ names, ∃ p, lookUp files directory name = .error p) :
    ∃ name ∈ names, ∃ p, lookUp files directory name = .error p ∧
      Makes s files (extract c directory (names.map .text)) [] (.error (.file p)) := by
  obtain ⟨name, hname, p, hp, hmakes⟩ := makes_present_error (s := s) h
  exact ⟨name, hname, p, hp, hmakes.bind_error⟩

end ChangeFeed.Ctags
