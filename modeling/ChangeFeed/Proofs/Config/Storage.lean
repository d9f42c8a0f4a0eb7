import ChangeFeed.Config.Storage
import ChangeFeed.Proofs.Config.Merge
import ChangeFeed.Proofs.Files.Tree
import ChangeFeed.Proofs.Json.Characters
import ChangeFeed.Proofs.Json.Depth
import ChangeFeed.Proofs.Json.Refusal
import ChangeFeed.Proofs.Run

/-!
# What is saved is loaded again

In a home without a configuration file, saving makes the directory if need be and puts the
configuration into it; from then on the file is the first one that is looked for and found
(`Holds`). Loading reads it and lays it over the defaults, and what has been laid over the defaults
can be saved and loaded any number of times (`loaded_loaded`). A configuration that nests deeper
than the reader goes is saved as well, but it is not read again; where the directory cannot be made,
nothing is saved at all (`load_after_error`). The defaults are loaded in both cases.
-/

namespace ChangeFeed

theorem Text.newlinesOnly_of_not_mem {t : Text} (h : '\r' ∉ t) : newlinesOnly t = t := by
  induction t with
  | nil => rfl
  | cons c t ih =>
    obtain ⟨hc, ht⟩ := not_or.1 (mt List.mem_cons.2 h)
    have hstep : newlinesOnly (c :: t) = c :: newlinesOnly t := by
      refine newlinesOnly.eq_4 c t ?_ ?_
      · rintro _ rfl
        exact absurd rfl hc
      · rintro rfl
        exact hc rfl
    rw [hstep, ih ht]

namespace Config

variable {environment : List (Text × Text)} {files ready : FileTree} {dir : Path}
  {place : List Text} {v : Value} {c : Table} {depth limit : Nat} {s : Surroundings} {t : Trace}

/-! ### The file -/

/-- The file of a directory in which a new configuration is saved. -/
def fileIn (dir : Path) : Path := ⟨dir.root, dir.names ++ ["config.json".toList]⟩

/-- How configurations are written in that file. -/
def savedStyle : Json.Style := { ascii := true, indent := some (.spaces 2) }

/-- The content of a file that holds a configuration. -/
def savedText (v : Value) : Text := Json.shown savedStyle v

theorem append_eq_fileIn (dir : Path) : dir.append (.ofText "config.json") = fileIn dir := by rfl

theorem parent_fileIn (dir : Path) : (fileIn dir).parent = dir := by
  simp [fileIn, Path.parent]

theorem ofPath_fileIn (dir : Path) : FileFormat.ofPath (fileIn dir) = .json := by
  have hsuffix : (fileIn dir).suffix = ".json".toList := by
    rw [Path.suffix, fileIn, List.getLast?_append]
    rfl
  rw [FileFormat.ofPath, hsuffix]
  decide

theorem hasNull_fileIn (dir : Path) : (fileIn dir).hasNull = dir.hasNull := by
  rw [Path.hasNull, fileIn, List.any_append]
  exact Bool.or_false _

/-- No variable is one for settings. -/
def IsSilent (environment : List (Text × Text)) : Prop :=
  ∀ e ∈ environment, Text.startsWith variableStart e.1 = false

instance (environment : List (Text × Text)) : Decidable (IsSilent environment) :=
  List.decidableBAll _ environment

theorem IsSilent.lookup (h : IsSilent environment) : environment.lookup fileVariable = none := by
  rw [List.lookup_eq_none_iff]
  intro e he
  rw [bne_iff_ne]
  intro heq
  have hstart := h e he
  rw [← heq] at hstart
  exact absurd hstart (by decide)

theorem IsSilent.pathOf? {e : Text × Text} (h : IsSilent environment) (he : e ∈ environment) :
    pathOf? e.1 = none := by
  have hrest : Text.rest? variableStart e.1 = none :=
    Option.isNone_iff_eq_none.1 (by rw [← Option.not_isSome]; simpa [Text.startsWith] using h e he)
  rw [Config.pathOf?, hrest]
  split <;> rfl

theorem overrideAll_of_isSilent (h : IsSilent environment) (v : Value) :
    overrideAll environment v = .ok v := by
  rw [overrideAll]
  induction environment with
  | nil => rfl
  | cons e environment ih =>
    have hone : override v e = .ok v := by rw [override, h.pathOf? List.mem_cons_self]
    rw [List.foldlM_cons, hone]
    exact ih fun e he => h e (List.mem_cons_of_mem _ he)

/-! ### Where the file is -/

theorem hasContent_eq_false_iff {p : Path} : hasContent files p = .ok false ↔
    files.find? p = .ok none ∨ files.find? p = .ok (some (.file [])) := by
  rw [hasContent]
  cases files.find? p with
  | error e => simp [Except.map]
  | ok found =>
    rcases found with _ | ⟨_ | _⟩ | _ <;> simp [Except.map]

theorem firstWithContent?_of_none {ps : List Path} (h : ∀ p ∈ ps, hasContent files p = .ok false) :
    firstWithContent? files ps = .ok none := by
  induction ps with
  | nil => rfl
  | cons p ps ih =>
    obtain ⟨hp, hps⟩ := List.forall_mem_cons.1 h
    rw [firstWithContent?, hp]
    exact ih hps

theorem pathIn_eq (h : IsSilent s.environment) (hdir : directory s = .ok dir) :
    pathIn s files =
      (firstWithContent? files (fileNames.map fun n => dir.append (.ofText n))).map
        fun found => found.getD (fileIn dir) := by
  rw [pathIn, h.lookup, hdir, ← append_eq_fileIn dir]
  exact bind_ok_eq_map _

/-- The directory for configuration files is there, and the file can be written in it. -/
structure IsReady (files : FileTree) (dir : Path) (place : List Text) : Prop where
  reached : files.follow dir = .reached place
  directory : files.node? place = some .directory
  file : files.follow (fileIn dir) = .reached (place ++ ["config.json".toList])
  free : files.node? (place ++ ["config.json".toList]) ≠ some .directory

theorem byteCount_fileIn (hnull : dir.hasNull = false)
    (h : hasContent files (fileIn dir) = .ok false) :
    FileTree.byteCount (fileIn dir).toText ≤ FileTree.maxPathBytes := by
  rw [← hasNull_fileIn] at hnull
  rcases hasContent_eq_false_iff.1 h with hfound | hfound
  · exact FileTree.byteCount_le_of_find? hnull hfound
  · exact FileTree.byteCount_le_of_find? hnull hfound

theorem follow_fileIn (hr : files.follow dir = .reached place)
    (hd : files.node? place = some .directory)
    (hlong : FileTree.byteCount (fileIn dir).toText ≤ FileTree.maxPathBytes) :
    files.follow (fileIn dir) = .reached (place ++ ["config.json".toList]) :=
  FileTree.follow_child hr hd (by decide) (by decide) (by decide) hlong

theorem isReady_of_makeDirectories {fuel : Nat} (h : files.makeDirectories dir fuel = .ok ready)
    (hempty : hasContent ready (fileIn dir) = .ok false) : ∃ place, IsReady ready dir place := by
  obtain ⟨place, hr, hd⟩ := FileTree.reached_of_makeDirectories h
  have hnull : dir.hasNull = false := (FileTree.follow_eq_reached_iff.1 hr).1
  have hfile := follow_fileIn hr hd (byteCount_fileIn hnull hempty)
  refine ⟨place, hr, hd, hfile, ?_⟩
  intro hfree
  rw [hasContent_eq_false_iff, FileTree.find?_of_follow hfile, hfree] at hempty
  rcases hempty with hempty | hempty
  · cases hempty
  · cases hempty

namespace IsReady

theorem put (h : IsReady files dir place) (content : Text) :
    IsReady (files.put (place ++ ["config.json".toList]) (.file content)) dir place := by
  refine ⟨FileTree.follow_put h.free h.reached, FileTree.directory_put h.free h.directory,
    FileTree.follow_put h.free h.file, ?_⟩
  rw [FileTree.node?_put_self]
  exact fun hfile => nomatch hfile

theorem makeDirectories (h : IsReady files dir place) (fuel : Nat) :
    files.makeDirectories dir fuel = .ok files := by
  rw [FileTree.makeDirectories_of_follow h.reached (.inr h.directory), if_pos h.directory]

theorem write (h : IsReady files dir place) (content : Text) :
    files.write (fileIn dir) content =
      .ok (files.put (place ++ ["config.json".toList]) (.file content)) :=
  FileTree.write_eq_put h.file h.free content

end IsReady

/-- A home that a configuration can be saved in: its directory for configuration files is there or
can be made, and the place for a new file in it is the one that is found. -/
structure Accepts (s : Surroundings) (files : FileTree) (dir : Path) : Prop where
  directory : directory s = .ok dir
  path : pathIn s files = .ok (fileIn dir)
  makeable : ∃ ready place, files.makeDirectories dir (fileIn dir).names.length = .ok ready ∧
    IsReady ready dir place

/-- A home without a configuration: none of the files that are looked for in its directory has any
content. -/
structure IsUnset (s : Surroundings) (files : FileTree) (dir : Path) : Prop where
  directory : directory s = .ok dir
  unset : ∀ name ∈ fileNames, hasContent files (dir.append (.ofText name)) = .ok false

/-- A home without a configuration in which there is space for one: the directory is there or can be
made. -/
structure IsVacant (s : Surroundings) (files : FileTree) (dir : Path) : Prop extends
    IsUnset s files dir where
  makeable : ∃ ready, files.makeDirectories dir (fileIn dir).names.length = .ok ready ∧
    hasContent ready (fileIn dir) = .ok false

/-- A home with a configuration in its file. -/
structure Holds (s : Surroundings) (files : FileTree) (dir : Path) (v : Value) :
    Prop where
  directory : directory s = .ok dir
  readable : ∃ depth, Json.Readable depth v
  held : ∃ place, IsReady files dir place ∧
    files.node? (place ++ ["config.json".toList]) = some (.file (savedText v))

namespace IsUnset

theorem hasContent_fileIn (h : IsUnset s files dir) :
    hasContent files (fileIn dir) = .ok false :=
  h.unset "config.json".toList List.mem_cons_self

theorem path (hs : IsSilent s.environment) (h : IsUnset s files dir) :
    pathIn s files = .ok (fileIn dir) := by
  have hnone : ∀ p ∈ fileNames.map fun n => dir.append (.ofText n),
      hasContent files p = .ok false := by
    intro p hp
    obtain ⟨name, hname, rfl⟩ := List.mem_map.1 hp
    exact h.unset name hname
  rw [pathIn_eq hs h.directory, firstWithContent?_of_none hnone]
  rfl

/-- There is space in a home that is there, with nothing or a directory in the place of the
directory for configuration files. -/
theorem isVacant_of_follow (h : IsUnset s files dir)
    (hr : files.follow dir = .reached place)
    (hn : files.node? place = none ∨ files.node? place = some .directory) :
    IsVacant s files dir := by
  refine ⟨h, _, FileTree.makeDirectories_of_follow hr hn _, ?_⟩
  rcases hn with hn | hn
  · rw [if_neg (by simp [hn])]
    -- nothing can stand in a directory that was not there
    have hnone : files.node? (place ++ ["config.json".toList]) = none := by
      by_contra h
      exact FileTree.node?_ne_none_of_isBelow (FileTree.isBelow_append _ _) h hn
    have hnull : dir.hasNull = false := (FileTree.follow_eq_reached_iff.1 hr).1
    have hfile := follow_fileIn (FileTree.follow_put (n := .directory) (by simp [hn]) hr)
      (FileTree.node?_put_self _ _ _) (byteCount_fileIn hnull h.hasContent_fileIn)
    rw [hasContent_eq_false_iff, FileTree.find?_of_follow hfile,
      FileTree.node?_put_of_not_isBelow (by simp) (FileTree.not_isBelow_append _ _), hnone]
    exact .inl rfl
  · rw [if_pos hn]
    exact h.hasContent_fileIn

end IsUnset

theorem IsVacant.accepts (hs : IsSilent s.environment) (h : IsVacant s files dir) :
    Accepts s files dir := by
  obtain ⟨ready, hready, hempty⟩ := h.makeable
  obtain ⟨place, hplace⟩ := isReady_of_makeDirectories hready hempty
  exact ⟨h.directory, h.path hs, ready, place, hready, hplace⟩

namespace Holds

theorem find? (h : Holds s files dir v) :
    files.find? (fileIn dir) = .ok (some (.file (savedText v))) := by
  obtain ⟨place, hready, hfile⟩ := h.held
  rw [FileTree.find?_of_follow hready.file, hfile]

theorem accepts (hs : IsSilent s.environment) (h : Holds s files dir v) :
    Accepts s files dir := by
  refine ⟨h.directory, ?_, ?_⟩
  · have hcontent : hasContent files (dir.append (.ofText "config.json")) = .ok true := by
      obtain ⟨depth, hv⟩ := h.readable
      obtain ⟨c, t, ht, -⟩ := Json.exists_valueText_eq_cons hv savedStyle 0
      have htext : savedText v = c :: t := ht
      rw [append_eq_fileIn, hasContent, h.find?, htext]
      rfl
    rw [pathIn_eq hs h.directory, fileNames, List.map_cons, firstWithContent?, hcontent,
      ← append_eq_fileIn]
    rfl
  · obtain ⟨place, hready, -⟩ := h.held
    exact ⟨files, place, hready.makeDirectories _, hready⟩

end Holds

/-! ### Saving -/

theorem exec_path {p : Path} (h : pathIn s t.files = .ok p) :
    path.exec s t = (.ok p, t) := by
  show (Run.ofExcept Failure.file (pathIn s t.files)).exec s t = _
  rw [h]
  rfl

theorem exec_save {p : Path} {written : FileTree} {problem : Option Failure}
    (hp : pathIn s t.files = .ok p)
    (hw : writeFile s t.files p v = (written, problem)) :
    ∃ t', (save v none).exec s t = (.ok p, t') ∧ t'.files = written := by
  have hread : (read : Run Surroundings).exec s t = (.ok s, t) := rfl
  have hget : (get : Run Trace).exec s t = (.ok t, t) := rfl
  have hput : (modify fun t => { t with files := written } : Run Unit).exec s t =
      (.ok (), { t with files := written }) := rfl
  -- the two ways differ in the record that is written at the end
  cases problem with
  | none =>
    obtain ⟨t', hlog, -, hfiles⟩ := Run.Makes.log (s := s) .info
      ("Configuration saved to " ++ p.toText) { t with files := written } rfl
    refine ⟨t', ?_, hfiles⟩
    simp only [save, Run.exec_bind, exec_path hp, hread, hget, hw, hput, hlog]
    rfl
  | some f =>
    obtain ⟨t', hlog, -, hfiles⟩ := Run.Makes.log (s := s) .error
      ("Error saving config to " ++ p.toText ++ ": " ++ f.message) { t with files := written } rfl
    refine ⟨t', ?_, hfiles⟩
    simp only [save, Run.exec_bind, exec_path hp, hread, hget, hw, hput, hlog]
    rfl

theorem exec_save_of_accepts (h : Accepts s t.files dir)
    (hv : Json.Readable depth v) :
    ∃ t', (save v none).exec s t = (.ok (fileIn dir), t') ∧
      Holds s t'.files dir v := by
  obtain ⟨ready, place, hmake, hready⟩ := h.makeable
  have hencode : encode s .json v = .ok (savedText v) := by
    rw [encode, Json.write_of_readable hv rfl]
    exact congrArg (Except.mapError Failure.unencodable) (CodePoints.encode_ofText _)
  have hwrite : writeFile s t.files (fileIn dir) v =
      (ready.put (place ++ ["config.json".toList]) (.file (savedText v)), none) := by
    simp only [writeFile, parent_fileIn, hmake, hready.write, ofPath_fileIn, hencode]
  obtain ⟨t', hsave, hfiles⟩ := exec_save h.path hwrite
  refine ⟨t', hsave, h.directory, ⟨depth, hv⟩, place, ?_⟩
  rw [hfiles]
  exact ⟨hready.put (savedText v), FileTree.node?_put_self _ _ _⟩

theorem exec_save_of_error {e : FileProblem} (hs : IsSilent s.environment)
    (h : IsUnset s t.files dir)
    (hmake : t.files.makeDirectories dir (fileIn dir).names.length = .error e) (v : Value) :
    ∃ t', (save v none).exec s t = (.ok (fileIn dir), t') ∧ t'.files = t.files := by
  have hwrite : writeFile s t.files (fileIn dir) v = (t.files, some (.file e)) := by
    simp only [writeFile, parent_fileIn, hmake]
  exact exec_save (h.path hs) hwrite

/-! ### Loading -/

/-- What is loaded from a path: the defaults alone if there is nothing that can be read. -/
def fromPath (s : Surroundings) (files : FileTree) (p : Path) : Value :=
  match readFile s files p with
  | .ok w => w
  | .error _ => .table defaults

theorem makes_load {p : Path} {found : Option Node} (hs : IsSilent s.environment)
    (hp : pathIn s files = .ok p) (hf : files.find? p = .ok found) :
    Run.Makes s files load [] (.ok (fromPath s files p)) := by
  have hpath : Run.Makes s files path [] (.ok p) := by
    intro t ht
    subst ht
    exact ⟨t, exec_path hp, (List.append_nil _).symm, rfl⟩
  have hfind : Run.Makes s files (Run.ofExcept Failure.file (files.find? p)) [] (.ok found) := by
    rw [hf]
    exact .pure _
  have hvariables (w : Value) :
      Run.Makes s files (read >>= fun s => Run.ofExcept id (overrideAll s.environment w)) []
        (.ok w) := by
    show Run.Makes s files (Run.ofExcept id (overrideAll s.environment w)) [] (.ok w)
    rw [overrideAll_of_isSilent hs]
    exact .pure w
  refine hpath.after (Run.Makes.get fun t ht => ?_)
  rw [ht]
  refine hfind.after ?_
  cases found with
  | none =>
    -- nothing is read here, but reading would come to the defaults as well
    obtain ⟨e, he⟩ := FileTree.exists_read_eq_error hf
    have hread : readFile s files p = .error (.file e) := by
      rw [readFile, he]
      rfl
    rw [fromPath, hread]
    exact (Run.Makes.pure (Value.table defaults)).after (hvariables _)
  | some x =>
    show Run.Makes s files (do
      let w ← match readFile (← read) files p with
        | .ok w => pure w
        | .error f => do
          Run.log .error ("Error loading config from " ++ p.toText ++ ": " ++ f.message)
          pure (.table defaults)
      Run.ofExcept id (overrideAll (← read).environment w)) [] (.ok (fromPath s files p))
    refine Run.Makes.after Run.Makes.read ?_
    rw [fromPath]
    cases readFile s files p with
    | ok w => exact (Run.Makes.pure w).after (hvariables w)
    | error f => exact (Run.Makes.log .error _).after ((Run.Makes.pure _).after (hvariables _))

theorem IsUnset.fromPath (h : IsUnset s files dir) :
    fromPath s files (fileIn dir) = .table defaults := by
  have hread : ∃ f, readFile s files (fileIn dir) = .error f := by
    rcases hasContent_eq_false_iff.1 h.hasContent_fileIn with hfind | hfind
    · obtain ⟨e, he⟩ := FileTree.exists_read_eq_error hfind
      exact ⟨.file e, by rw [readFile, he]; rfl⟩
    · obtain ⟨e, he⟩ := Json.read_nil s.depth
      refine ⟨.json e, ?_⟩
      rw [readFile, FileTree.read_of_find? hfind, ofPath_fileIn]
      show (Json.read s.depth [] >>= fun w =>
        (merge (.table defaults) w).mapError Failure.misuse) = _
      rw [he]
      rfl
  obtain ⟨f, hf⟩ := hread
  rw [Config.fromPath, hf]

/-- What a text that was saved comes to: the value in it over the defaults. -/
def fromText (limit : Nat) (v : Value) : Except Failure Value := do
  let w ← Json.read limit (savedText v)
  (merge (.table defaults) w).mapError Failure.misuse

/-- What is loaded where a value was saved: the defaults alone if it cannot be read back. -/
def loaded (limit : Nat) (v : Value) : Value :=
  match fromText limit v with
  | .ok w => w
  | .error _ => .table defaults

theorem Holds.fromPath (h : Holds s files dir v) :
    fromPath s files (fileIn dir) = loaded s.depth v := by
  obtain ⟨depth, hv⟩ := h.readable
  have hlines : Text.newlinesOnly (savedText v) = savedText v :=
    Text.newlinesOnly_of_not_mem (Json.return_not_mem_valueText rfl hv 0)
  have hread : readFile s files (fileIn dir) = fromText s.depth v := by
    rw [readFile, FileTree.read_of_find? h.find?, ofPath_fileIn]
    show (decode s .json (savedText v) >>= fun w =>
      (merge (.table defaults) w).mapError Failure.misuse) = _
    rw [decode, hlines]
    rfl
  rw [Config.fromPath, hread]
  rfl

theorem Holds.makes_load (hs : IsSilent s.environment) (h : Holds s files dir v) :
    Run.Makes s files load [] (.ok (loaded s.depth v)) := by
  rw [← h.fromPath]
  exact Config.makes_load hs (h.accepts hs).path h.find?

/-! ### What comes back -/

theorem merge_table (lower upper : Table) : merge (.table lower) (.table upper) =
    .ok (mergeValue (some (.table lower)) (.table upper)) := by
  rw [mergeValue]
  rfl

theorem loaded_of_readable (h : Json.Readable limit (.table c)) :
    loaded limit (.table c) = mergeValue (some (.table defaults)) (.table c) := by
  have hread : Json.read limit (savedText (.table c)) = .ok (.table c) :=
    Json.read_shown (Json.Style.spaced_of_spaces true 2) h
  have htext :
      fromText limit (.table c) = .ok (mergeValue (some (.table defaults)) (.table c)) := by
    show (Json.read limit (savedText (.table c)) >>= fun w => _) = _
    rw [hread]
    show (merge (.table defaults) (.table c)).mapError Failure.misuse = _
    rw [merge_table]
    rfl
  rw [loaded, htext]

theorem loaded_of_not_readable (h : Json.Readable depth (.table c))
    (hnot : ¬Json.Readable limit (.table c)) : loaded limit (.table c) = .table defaults := by
  obtain ⟨container, hread⟩ :=
    Json.read_shown_of_not_readable (Json.Style.spaced_of_spaces true 2) h hnot
  rw [loaded, fromText, savedText, savedStyle, hread]
  rfl

/-- What is loaded has all the defaults, so loading it once more adds none of them. -/
theorem loaded_loaded (hlimit : 3 ≤ limit) (h : Json.Readable depth (.table c)) :
    Json.Readable limit (loaded limit (.table c)) ∧
      loaded limit (loaded limit (.table c)) = loaded limit (.table c) := by
  have hdefaults : Json.Readable limit (.table defaults) := by
    have hthree : Json.Readable 3 (.table defaults) := readable_defaults
    exact hthree.mono hlimit
  have hdistinct := isDistinct_of_readable hdefaults
  by_cases hread : Json.Readable limit (.table c)
  · have hmerged : Json.Readable limit (loaded limit (.table c)) := by
      rw [loaded_of_readable hread]
      exact readable_mergeValue hread (by simpa using hdefaults)
    refine ⟨hmerged, ?_⟩
    rw [loaded_of_readable hread, mergeValue] at hmerged ⊢
    rw [loaded_of_readable hmerged, ← mergeValue]
    exact mergeValue_mergeValue (isDistinct_of_readable hread) (by simpa using hdistinct)
  · rw [loaded_of_not_readable h hread, loaded_of_readable hdefaults]
    exact ⟨hdefaults, mergeValue_self hdistinct⟩

/-- Where the directory cannot be made, saving leaves the files alone. The defaults are loaded. -/
theorem load_after_error {e : FileProblem} (hsilent : IsSilent s.environment)
    (h : IsUnset s t.files dir)
    (hmake : t.files.makeDirectories dir (fileIn dir).names.length = .error e) (v : Value) :
    ∃ t₁, (save v none >>= fun _ => load).exec s t = (.ok (.table defaults), t₁) ∧
      t₁.files = t.files := by
  obtain ⟨t', hsave, hfiles⟩ := exec_save_of_error hsilent h hmake v
  obtain ⟨found, hfound⟩ : ∃ found, t.files.find? (fileIn dir) = .ok found := by
    rcases hasContent_eq_false_iff.1 h.hasContent_fileIn with hfind | hfind
    · exact ⟨_, hfind⟩
    · exact ⟨_, hfind⟩
  obtain ⟨t₁, hload, -, hfiles₁⟩ := makes_load hsilent (h.path hsilent) hfound t' hfiles
  refine ⟨t₁, ?_, hfiles₁⟩
  rw [Run.exec_bind, hsave]
  show load.exec s t' = _
  rw [hload, h.fromPath]

/-- What is saved where it can be saved is loaded, as far as it can be read. -/
theorem load_after_save (hsilent : IsSilent s.environment) (h : Accepts s t.files dir)
    (hv : Json.Readable depth v) :
    ∃ t₁, (save v none >>= fun _ => load).exec s t = (.ok (loaded s.depth v), t₁) ∧
      Holds s t₁.files dir v := by
  obtain ⟨t', hsave, hholds⟩ := exec_save_of_accepts h hv
  obtain ⟨t₁, hload, -, hfiles⟩ := hholds.makes_load hsilent t' rfl
  rw [← hfiles] at hholds
  refine ⟨t₁, ?_, hholds⟩
  rw [Run.exec_bind, hsave]
  exact hload

/-- In a home without a configuration, a configuration that is saved comes back with the defaults
below it, and what has been loaded comes back as it is. One that nests more deeply than can be read
leaves the defaults alone. -/
theorem load_save (hsilent : IsSilent s.environment) (hdepth : 3 ≤ s.depth)
    (hvacant : IsVacant s t.files dir) (hc : ∃ depth, Json.Readable depth (.table c)) :
    ∃ config,
      (Json.Readable s.depth (.table c) →
        merge (.table defaults) (.table c) = .ok config) ∧
      (¬Json.Readable s.depth (.table c) → config = .table defaults) ∧
      ∃ t₁, (save (.table c) none >>= fun _ => load).exec s t = (.ok config, t₁) ∧
        ∃ t₂, (load >>= fun config => save config none >>= fun _ => load).exec s t₁ =
          (.ok config, t₂) := by
  obtain ⟨depth, hc⟩ := hc
  obtain ⟨hread, hagain⟩ := loaded_loaded hdepth hc
  obtain ⟨t₁, hload, hholds⟩ := load_after_save hsilent (hvacant.accepts hsilent) hc
  obtain ⟨t₂, hload₂, -, hfiles⟩ := hholds.makes_load hsilent t₁ rfl
  rw [← hfiles] at hholds
  obtain ⟨t₃, hload₃, -⟩ := load_after_save hsilent (hholds.accepts hsilent) hread
  refine ⟨loaded s.depth (.table c), ?_, ?_, t₁, hload, t₃, ?_⟩
  · intro h
    rw [merge_table, loaded_of_readable h]
  · exact loaded_of_not_readable hc
  · rw [Run.exec_bind, hload₂]
    exact hload₃.trans (by rw [hagain])

/-- A user without variables for settings. -/
def newcomer : Surroundings where
  answer _ := .missing
  environment := [("HOME", "/home/ann"), ("LANG", "C")]
  depth := 985

/-- The files of a user whose home is empty. -/
def emptyHome : FileTree := { nodes := [(["home", "ann"], .directory)], working := [] }

theorem isVacant_emptyHome :
    IsVacant newcomer emptyHome (.ofText "/home/ann/.defevents") := by
  have hunset : IsUnset newcomer emptyHome (.ofText "/home/ann/.defevents") :=
    ⟨by rfl, by decide⟩
  have hr : emptyHome.follow (.ofText "/home/ann/.defevents") =
      .reached ["home", "ann", ".defevents"] := by decide
  exact hunset.isVacant_of_follow hr (by decide)

theorem load_save_emptyHome : ∃ config, ∃ t₁ t₂,
    merge (.table defaults) (.table [("git", .table [("remote", .text "upstream")]),
      ("names", .list [.text "\\ \"Zoë\"\n", .text "𝄞"]), ("more", .table [])]) = .ok config ∧
    (save (.table [("git", .table [("remote", .text "upstream")]),
      ("names", .list [.text "\\ \"Zoë\"\n", .text "𝄞"]), ("more", .table [])]) none >>=
        fun _ => load).exec newcomer { files := emptyHome } = (.ok config, t₁) ∧
    (load >>= fun config => save config none >>= fun _ => load).exec newcomer t₁ =
      (.ok config, t₂) := by
  have hreadable : Json.Readable 2
      (.table [("git", .table [("remote", .text "upstream")]),
        ("names", .list [.text "\\ \"Zoë\"\n", .text "𝄞"]), ("more", .table [])]) := by
    refine .table (by decide) (by simp) ?_
    simp only [List.forall_mem_cons]
    refine ⟨.table (by decide) (by simp) ?_, .list ?_, .table (by decide) (by simp) ?_,
      List.forall_mem_nil _⟩
    · simp only [List.forall_mem_cons]
      exact ⟨.text _, List.forall_mem_nil _⟩
    · simp only [List.forall_mem_cons]
      exact ⟨.text _, .text _, List.forall_mem_nil _⟩
    · exact List.forall_mem_nil _
  obtain ⟨config, hmerge, -, t₁, h₁, t₂, h₂⟩ := load_save (s := newcomer)
    (t := { files := emptyHome }) (by decide) (by decide) isVacant_emptyHome ⟨2, hreadable⟩
  exact ⟨config, t₁, t₂, hmerge (hreadable.mono (by decide)), h₁, h₂⟩

/-- Tables inside each other. -/
def nested : Nat → Table
  | 0 => []
  | n + 1 => [("a", .table (nested n))]

theorem readable_nested_iff {n : Nat} : Json.Readable depth (.table (nested n)) ↔ n < depth := by
  induction n generalizing depth with
  | zero =>
    constructor
    · rintro (_ | _)
      exact Nat.succ_pos _
    · intro h
      obtain ⟨d, rfl⟩ : ∃ d, depth = d + 1 := ⟨depth - 1, by omega⟩
      exact .table List.nodup_nil (List.forall_mem_nil _) (List.forall_mem_nil _)
  | succ n ih =>
    constructor
    · intro h
      cases h with
      | table _ _ h =>
        exact Nat.succ_lt_succ (ih.1 (h _ List.mem_cons_self))
    · intro h
      obtain ⟨d, rfl⟩ : ∃ d, depth = d + 1 := ⟨depth - 1, by omega⟩
      refine .table (by simp [nested, Table.keys]) (by simp [nested]) ?_
      rw [nested, List.forall_mem_cons]
      exact ⟨ih.2 (by omega), List.forall_mem_nil _⟩

theorem merge_ne_defaults {key : Key} (h : key ∉ Table.keys defaults) (v : Value) :
    merge (.table defaults) (.table [(key, v)]) ≠ .ok (.table defaults) := by
  have hn : (Table.keys [(key, v)]).Nodup := List.nodup_cons.2 ⟨List.not_mem_nil, List.nodup_nil⟩
  have hmem : key ∈ (mergeEntries defaults [(key, v)]).keys :=
    (mem_keys_mergeEntries hn).2 (.inr List.mem_cons_self)
  rw [merge_table, mergeValue]
  intro hsame
  rw [Value.table.inj (Except.ok.inj hsame)] at hmem
  exact h hmem

theorem merge_nested_ne (n : Nat) :
    merge (.table defaults) (.table (nested (n + 1))) ≠ .ok (.table defaults) :=
  merge_ne_defaults (by decide) _

/-- The files of a user with a file in the place of the directory. -/
def occupiedHome : FileTree :=
  { nodes := [(["home", "ann", ".defevents"], .file "x")], working := [] }

/-- Not everything that is saved is loaded again: not if there is no space for it, and not if it
nests too deeply. -/
theorem load_save_defaults :
    ((save (.table (nested 1)) none >>= fun _ => load).exec newcomer
      { files := occupiedHome }).1 = .ok (.table defaults) ∧
    merge (.table defaults) (.table (nested 1)) ≠ .ok (.table defaults) ∧
    ((save (.table (nested 1000)) none >>= fun _ => load).exec newcomer
      { files := emptyHome }).1 = .ok (.table defaults) ∧
    merge (.table defaults) (.table (nested 1000)) ≠ .ok (.table defaults) := by
  have hsilent : IsSilent newcomer.environment := by decide
  refine ⟨?_, merge_nested_ne 0, ?_, merge_nested_ne 999⟩
  · have hunset : IsUnset newcomer occupiedHome (.ofText "/home/ann/.defevents") :=
      ⟨by rfl, by decide⟩
    obtain ⟨e, hmake⟩ : ∃ e, occupiedHome.makeDirectories (.ofText "/home/ann/.defevents")
        (fileIn (.ofText "/home/ann/.defevents")).names.length = .error e := ⟨_, by rfl⟩
    obtain ⟨t₁, hexec, -⟩ := load_after_error (t := { files := occupiedHome }) hsilent hunset hmake
      (.table (nested 1))
    rw [hexec]
  · have hdeep : Json.Readable 1001 (.table (nested 1000)) := readable_nested_iff.2 (by omega)
    have hnot : ¬Json.Readable newcomer.depth (.table (nested 1000)) := by
      rw [readable_nested_iff]
      decide
    obtain ⟨t₁, hexec, -⟩ := load_after_save (t := { files := emptyHome }) hsilent
      (isVacant_emptyHome.accepts hsilent) hdeep
    rw [hexec, loaded_of_not_readable hdeep hnot]

end Config

end ChangeFeed
