import ChangeFeed.Etags.Document
import ChangeFeed.Proofs.Text.Numeral
import Mathlib.Tactic.MkIffOfInductiveProp

/-!
# What is read of a TAGS file

The fields of a line are found by successive cuts, so a field only has to lack the mark that ends
it; the marks behind may stand in it. `Section.WellFormed` asks for no more than that, and for
numbers that are not too long. Such sections are always read to their end (`exec_feedText_render`),
except for the lines that start with an exclamation mark (`IsRemark`): these are passed over,
whether they name a file or a symbol. `Session.after` is what a section then adds to a session.
-/

namespace ChangeFeed.Etags

open Text

variable {x : Session} {s : Section} {y : SymbolLine} {file t : Text} {size : Int}

/-- A line that is passed over for its first character. -/
def IsRemark (line : Text) : Prop := line.head? = some '!'

instance (line : Text) : Decidable (IsRemark line) := inferInstanceAs (Decidable (_ = _))

/-- The definition and the name lack the marks behind them and are on one line, and the numbers can
be read. -/
@[mk_iff]
structure SymbolLine.WellFormed (y : SymbolLine) : Prop where
  definition : '\n' ∉ y.definition ∧ nameMark ∉ y.definition
  name : '\n' ∉ y.name ∧ positionMark ∉ y.name
  line : Numeral.fits y.line = true
  offset : Numeral.fits y.offset = true

instance (y : SymbolLine) : Decidable y.WellFormed := decidable_of_iff' _ y.wellFormed_iff

/-- The file is on one line, which is not taken for that of a symbol, and the symbols are
well-formed. -/
@[mk_iff]
structure Section.WellFormed (s : Section) : Prop where
  file : '\n' ∉ s.file ∧ nameMark ∉ s.file
  size : Numeral.fits s.size = true
  symbols : ∀ y ∈ s.symbols, y.WellFormed

instance (s : Section) : Decidable s.WellFormed := decidable_of_iff' _ s.wellFormed_iff

/-! ### Lines -/

theorem isRemark_append_cons {c : Char} (hc : c ≠ '!') (t u : Text) :
    IsRemark (t ++ c :: u) ↔ IsRemark t := by
  cases t with
  | nil => simp [IsRemark, hc]
  | cons d t => simp [IsRemark]

/-- A line with a character that is no blank is passed over only if it is a remark. -/
theorem skips_append_cons {c : Char} (hb : isBlank c = false) (hc : c ≠ '!') (t u : Text) :
    Session.skips (t ++ c :: u) = decide (IsRemark t) := by
  have hall : isAllBlank (t ++ c :: u) = false := by
    rw [isAllBlank, List.all_append, List.all_cons, hb, Bool.false_and, Bool.and_false]
  rw [Session.skips, hall, Bool.false_or, decide_eq_decide.2 (isRemark_append_cons hc t u).symm]
  exact Bool.beq_eq_decide_eq _ _

theorem dropReturns_append_ofInt (t : Text) (i : Int) :
    dropReturns (t ++ ofInt i) = t ++ ofInt i := by
  refine dropEndWhile_of_getLast? fun c hc => ?_
  have hlast : (t ++ ofInt i).getLast? = (ofInt i).getLast? := by
    rw [List.getLast?_append, List.getLast?_eq_some_getLast (ofInt_ne_nil i), Option.some_or]
  rw [hlast] at hc
  rw [beq_eq_false_iff_ne]
  rintro rfl
  exact not_mem_ofInt (by decide) rfl i (List.mem_of_getLast? hc)

/-- What the line of a file does to a session. -/
def Session.afterFile (x : Session) (file : Text) : Session :=
  if IsRemark file then x else { x with current := file, files := x.files ++ [file] }

theorem exec_feed_file (hf : nameMark ∉ file) (hs : Numeral.fits size = true) :
    (Session.feed (dropReturns (file ++ ',' :: ofInt size))).exec x =
      (.ok (), x.afterFile file) := by
  have hline : file ++ ',' :: ofInt size = (file ++ [',']) ++ ofInt size := by simp
  have hmark : nameMark ∉ file ++ ',' :: ofInt size := by
    have hi := not_mem_ofInt (c := nameMark) (by decide) rfl size
    simpa [hf, hi] using (by decide : nameMark ≠ ',')
  have hread : readFile (file ++ ',' :: ofInt size) = .ok file := by
    have hcut : cutLast? ',' (file ++ ',' :: ofInt size) = some (file, ofInt size) :=
      cutLast?_eq_some_iff.2 ⟨rfl, not_mem_ofInt (by decide) rfl size⟩
    simp only [readFile, hcut, Numeral.read_ofInt, if_pos hs]
  rw [hline, dropReturns_append_ofInt, ← hline, Session.feed,
    skips_append_cons (by decide) (by decide), cut?_of_not_mem hmark, Session.afterFile]
  simp only [decide_eq_true_eq, Session.feedFile, hread]
  split <;> rfl

namespace SymbolLine

theorem render_eq (y : SymbolLine) : y.render = y.definition ++ nameMark :: (y.name ++
    positionMark :: (ofInt y.line ++ ',' :: ofInt y.offset)) := by simp [render]

theorem dropReturns_render (y : SymbolLine) : dropReturns y.render = y.render := by
  have h : y.render = (y.definition ++ nameMark :: (y.name ++
      positionMark :: (ofInt y.line ++ [',']))) ++ ofInt y.offset := by simp [render_eq]
  rw [h, dropReturns_append_ofInt]

theorem cut?_render (h : nameMark ∉ y.definition) : cut? nameMark y.render = some (y.definition,
    y.name ++ positionMark :: (ofInt y.line ++ ',' :: ofInt y.offset)) :=
  cut?_eq_some_iff.2 ⟨y.render_eq, h⟩

theorem readSymbol_render (h : positionMark ∉ y.name) : readSymbol (y.name ++
    positionMark :: (ofInt y.line ++ ',' :: ofInt y.offset)) =
      if Numeral.fits y.line then
        if Numeral.fits y.offset then .ok (y.name, y.line, y.offset) else .error .offset
      else .error .lineNumber := by
  have hname : cut? positionMark (y.name ++ positionMark :: (ofInt y.line ++ ',' ::
      ofInt y.offset)) = some (y.name, ofInt y.line ++ ',' :: ofInt y.offset) :=
    cut?_eq_some_iff.2 ⟨rfl, h⟩
  have hline : cut? ',' (ofInt y.line ++ ',' :: ofInt y.offset) =
      some (ofInt y.line, ofInt y.offset) :=
    cut?_eq_some_iff.2 ⟨rfl, not_mem_ofInt (by decide) rfl y.line⟩
  simp only [readSymbol, hname, hline, Numeral.read_ofInt]
  cases Numeral.fits y.line <;> cases Numeral.fits y.offset <;> rfl

theorem skips_render (y : SymbolLine) :
    Session.skips y.render = decide (IsRemark y.definition) := by
  rw [y.render_eq, skips_append_cons (by decide) (by decide)]

/-- The entries that the line of a symbol adds. -/
def seen (file : Text) (y : SymbolLine) : List Entry :=
  if IsRemark y.definition then [] else [y.entry file]

end SymbolLine

theorem exec_feed_symbol (h : y.WellFormed) : (Session.feed (dropReturns y.render)).exec x =
    (.ok (), { x with entries := x.entries ++ y.seen x.current }) := by
  have hread := SymbolLine.readSymbol_render h.name.2
  rw [if_pos h.line, if_pos h.offset] at hread
  rw [y.dropReturns_render, Session.feed, y.skips_render, y.cut?_render h.definition.2,
    SymbolLine.seen]
  simp only [decide_eq_true_eq, Session.feedSymbol, hread]
  split
  · rw [List.append_nil]
    rfl
  · rfl

theorem exec_feed_symbol_of_not_fits (hd : nameMark ∉ y.definition)
    (hr : ¬IsRemark y.definition) (hn : positionMark ∉ y.name)
    (hl : ¬Numeral.fits y.line = true) :
    (Session.feed (dropReturns y.render)).exec x = (.error ⟨.lineNumber, y.render⟩, x) := by
  have hread := SymbolLine.readSymbol_render hn
  rw [if_neg hl] at hread
  rw [y.dropReturns_render, Session.feed, y.skips_render, decide_eq_false hr, y.cut?_render hd]
  simp only [Session.feedSymbol, hread]
  rfl

/-! ### Sections -/

namespace Session

/-- The session in which a section has been read. -/
def after (x : Session) (s : Section) : Session :=
  let x := x.afterFile s.file
  { x with entries := x.entries ++ s.symbols.flatMap (SymbolLine.seen x.current) }

theorem exec_forM_symbols {ys : List SymbolLine} (h : ∀ y ∈ ys, y.WellFormed) (x : Session) :
    (((ys.map SymbolLine.render).map dropReturns).forM feed).exec x =
      (.ok (), { x with entries := x.entries ++ ys.flatMap (SymbolLine.seen x.current) }) := by
  induction ys generalizing x with
  | nil =>
    rw [List.flatMap_nil, List.append_nil]
    rfl
  | cons y ys ih =>
    rw [List.forall_mem_cons] at h
    rw [List.map_cons, List.map_cons, List.forM_eq_forM, List.forM_cons, Attempt.exec_bind,
      exec_feed_symbol h.1]
    simp only [List.flatMap_cons, ← List.append_assoc]
    exact ih h.2 _

theorem exec_forM_section (h : s.WellFormed) (x : Session) :
    ((s.lines.map dropReturns).forM feed).exec x = (.ok (), x.after s) := by
  have hfeed : (feed (dropReturns ['\x0c'])).exec x = (.ok (), x) := rfl
  rw [Section.lines, List.map_cons, List.map_cons, List.forM_eq_forM, List.forM_cons,
    Attempt.exec_bind, hfeed]
  simp only [List.forM_cons, Attempt.exec_bind, exec_feed_file h.file.2 h.size]
  exact exec_forM_symbols h.symbols _

theorem exec_forM_sections {ss : List Section} (h : ∀ s ∈ ss, s.WellFormed) (x : Session) :
    (((ss.flatMap Section.lines).map dropReturns).forM feed).exec x =
      (.ok (), ss.foldl after x) := by
  induction ss generalizing x with
  | nil => rfl
  | cons s ss ih =>
    rw [List.forall_mem_cons] at h
    rw [List.flatMap_cons, List.map_append, Attempt.exec_forM_append, exec_forM_section h.1]
    exact ih h.2 (x.after s)

end Session

theorem newline_not_mem_lines (hf : '\n' ∉ s.file)
    (hs : ∀ y ∈ s.symbols, '\n' ∉ y.definition ∧ '\n' ∉ y.name) :
    ∀ line ∈ s.lines, '\n' ∉ line := by
  have hi : ∀ i, '\n' ∉ ofInt i := not_mem_ofInt (by decide) rfl
  intro line hl
  rw [Section.lines, List.mem_cons, List.mem_cons, List.mem_map] at hl
  rcases hl with rfl | rfl | ⟨y, hy, rfl⟩
  · decide
  · simp [hf, hi]
  · obtain ⟨hd, hn⟩ := hs y hy
    simp [SymbolLine.render_eq, hd, hn, hi, nameMark, positionMark]

/-- Well-formed sections are read to their end, each after those in front of it. -/
theorem exec_feedText_render {ss : List Section} (h : ∀ s ∈ ss, s.WellFormed) (x : Session) :
    (Session.feedText (render ss)).exec x = (.ok (), ss.foldl Session.after x) := by
  have hlines : splitLines (render ss) = ss.flatMap Section.lines ++ [[]] := by
    refine splitLines_ofLines fun line hl => ?_
    obtain ⟨s, hs, hl⟩ := List.mem_flatMap.1 hl
    exact newline_not_mem_lines (h s hs).file.1
      (fun y hy => ⟨((h s hs).symbols y hy).definition.1, ((h s hs).symbols y hy).name.1⟩) line hl
  rw [Session.feedText, hlines, List.map_append, Attempt.exec_forM_append,
    Session.exec_forM_sections h]
  rfl

theorem exists_parse_render_eq_error (hf : '\n' ∉ file ∧ nameMark ∉ file)
    (hs : Numeral.fits size = true) (hd : '\n' ∉ y.definition ∧ nameMark ∉ y.definition)
    (hn : '\n' ∉ y.name ∧ positionMark ∉ y.name) (hr : ¬IsRemark y.definition)
    (hl : ¬Numeral.fits y.line = true) :
    ∃ p, parse (render [⟨file, size, [y]⟩]) = .error p := by
  have hlines : splitLines (render [⟨file, size, [y]⟩]) =
      ['\x0c'] :: (file ++ ',' :: ofInt size) :: y.render :: [[]] := by
    rw [render, List.flatMap_singleton]
    refine splitLines_ofLines (newline_not_mem_lines hf.1 fun z hz => ?_)
    rw [List.mem_singleton.1 hz]
    exact ⟨hd.1, hn.1⟩
  have hform : (Session.feed (dropReturns ['\x0c'])).exec {} = (.ok (), {}) := rfl
  refine ⟨⟨.lineNumber, y.render⟩, ?_⟩
  rw [parse, Session.feedText, hlines]
  simp only [List.map_cons, List.forM_eq_forM, List.forM_cons, Attempt.exec_bind, hform,
    exec_feed_file hf.2 hs, exec_feed_symbol_of_not_fits hd.2 hr hn.2 hl]

end ChangeFeed.Etags
