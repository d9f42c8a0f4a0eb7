import ChangeFeed.Operation
import ChangeFeed.Proofs.Etags.Reading
import ChangeFeed.Proofs.Outcome

/-!
# The grammar of TAGS lines

A line is read by cutting it again and again at the next mark. What can be read is said here without
any cuts: a line names a symbol if it consists of four fields with a mark behind each of the first
three, none of which has its own mark in it (`SymbolFields.Spells`), and a file if its last comma
stands in front of a number. `Session.Takes` is what such lines do to a session. A line that is
neither, and is not passed over, is a problem and does nothing (`onEtags_parse_line`).
-/

namespace ChangeFeed.Etags

open Text Operation

/-- A line that is passed over: it has nothing but blanks, or starts with an exclamation mark. -/
def IsPassed (line : Text) : Prop := (∀ c ∈ line, isBlank c = true) ∨ IsRemark line

/-- The texts of the fields of a line that names a symbol. -/
structure SymbolFields where
  definition : Text
  name : Text
  line : Text
  offset : Text
  deriving DecidableEq, Repr

/-- A line consists of fields with marks between them. Each field but the last lacks the mark that
ends it; the other marks may stand in it. -/
structure SymbolFields.Spells (f : SymbolFields) (line : Text) : Prop where
  eq : line = f.definition ++ nameMark :: (f.name ++ positionMark :: (f.line ++ ',' :: f.offset))
  definition : nameMark ∉ f.definition
  name : positionMark ∉ f.name
  line : ',' ∉ f.line

/-- What a line does to a session: nothing if it is passed over, and otherwise it names a symbol of
the current file, or the next file. -/
inductive Session.Takes (x : Session) (line : Text) : Session → Prop
  | passed : IsPassed line → x.Takes line x
  | symbol {f : SymbolFields} {num offset : Int} : ¬IsPassed line → f.Spells line →
      Numeral.read f.line = .ok num → Numeral.read f.offset = .ok offset →
      x.Takes line
        { x with entries := x.entries ++ [⟨x.current, f.definition, f.name, num, offset⟩] }
  | file {file size : Text} {n : Int} : ¬IsPassed line → nameMark ∉ line →
      line = file ++ ',' :: size → ',' ∉ size → Numeral.read size = .ok n →
      x.Takes line { x with current := file, files := x.files ++ [file] }

variable {x y : Session} {line t file : Text} {f g : SymbolFields}

theorem skips_eq_true_iff : Session.skips line = true ↔ IsPassed line := by
  rw [Session.skips, Bool.or_eq_true, isAllBlank, List.all_eq_true, beq_iff_eq]
  rfl

/-- What stands behind the definition of a symbol is cut in one way only. -/
theorem readSymbol_eq_ok_iff {name : Text} {num offset : Int} :
    readSymbol t = .ok (name, num, offset) ↔ ∃ l o, t = name ++ positionMark :: (l ++ ',' :: o) ∧
      positionMark ∉ name ∧ ',' ∉ l ∧ Numeral.read l = .ok num ∧ Numeral.read o = .ok offset := by
  constructor
  · intro h
    rw [readSymbol] at h
    split at h
    · cases h
    · next name' rest hname =>
      split at h
      · cases h
      · next l o hline =>
        split at h
        · cases h
        · cases h
        · next hl ho =>
          cases h
          obtain ⟨rfl, hmark⟩ := cut?_eq_some_iff.1 hname
          obtain ⟨rfl, hcomma⟩ := cut?_eq_some_iff.1 hline
          exact ⟨l, o, rfl, hmark, hcomma, hl, ho⟩
  · rintro ⟨l, o, rfl, hname, hline, hl, ho⟩
    have hcut : cut? positionMark (name ++ positionMark :: (l ++ ',' :: o)) =
        some (name, l ++ ',' :: o) := cut?_eq_some_iff.2 ⟨rfl, hname⟩
    have hcut' : cut? ',' (l ++ ',' :: o) = some (l, o) := cut?_eq_some_iff.2 ⟨rfl, hline⟩
    simp only [readSymbol, hcut, hcut', hl, ho]

theorem readFile_eq_ok_iff : readFile line = .ok file ↔
    ∃ size n, line = file ++ ',' :: size ∧ ',' ∉ size ∧ Numeral.read size = .ok n := by
  constructor
  · intro h
    rw [readFile] at h
    split at h
    · cases h
    · next file' size hcut =>
      split at h
      · cases h
      · next n hn =>
        cases h
        obtain ⟨rfl, hsize⟩ := cutLast?_eq_some_iff.1 hcut
        exact ⟨size, n, rfl, hsize, hn⟩
  · rintro ⟨size, n, rfl, hsize, hn⟩
    have hcut : cutLast? ',' (file ++ ',' :: size) = some (file, size) :=
      cutLast?_eq_some_iff.2 ⟨rfl, hsize⟩
    simp only [readFile, hcut, hn]

/-- There is at most one way to take a line apart into fields. -/
theorem SymbolFields.Spells.unique (hf : f.Spells line) (hg : g.Spells line) : f = g := by
  obtain ⟨definition, name, num, offset⟩ := f
  obtain ⟨definition', name', num', offset'⟩ := g
  obtain ⟨rfl, hdef, hname, hnum⟩ := hf
  obtain ⟨heq, hdef', hname', hnum'⟩ := hg
  obtain ⟨rfl, heq⟩ := (append_sep_inj hdef hdef').1 heq
  obtain ⟨rfl, heq⟩ := (append_sep_inj hname hname').1 heq
  obtain ⟨rfl, rfl⟩ := (append_sep_inj hnum hnum').1 heq
  rfl

theorem exec_feed_of_isPassed (h : IsPassed line) : (Session.feed line).exec x = (.ok (), x) := by
  rw [Session.feed, if_pos (skips_eq_true_iff.2 h)]
  rfl

theorem exec_feed_of_mark {definition : Text} (hd : nameMark ∉ definition)
    (hp : ¬IsPassed (definition ++ nameMark :: t)) :
    (Session.feed (definition ++ nameMark :: t)).exec x = match readSymbol t with
      | .ok (name, num, offset) =>
        (.ok (), { x with entries := x.entries ++ [⟨x.current, definition, name, num, offset⟩] })
      | .error f => (.error ⟨f, definition ++ nameMark :: t⟩, x) := by
  have hcut : cut? nameMark (definition ++ nameMark :: t) = some (definition, t) :=
    cut?_eq_some_iff.2 ⟨rfl, hd⟩
  rw [Session.feed, if_neg (mt skips_eq_true_iff.1 hp)]
  simp only [hcut, Session.feedSymbol]
  cases readSymbol t <;> rfl

theorem exec_feed_of_not_mark (hm : nameMark ∉ line) (hp : ¬IsPassed line) :
    (Session.feed line).exec x = match readFile line with
      | .ok file => (.ok (), { x with current := file, files := x.files ++ [file] })
      | .error f => (.error ⟨f, line⟩, x) := by
  rw [Session.feed, if_neg (mt skips_eq_true_iff.1 hp)]
  simp only [cut?_of_not_mem hm, Session.feedFile]
  cases readFile line <;> rfl

/-- A session reads the lines of the grammar, and no other ones. -/
theorem exec_feed_eq_ok_iff : (Session.feed line).exec x = (.ok (), y) ↔ x.Takes line y := by
  by_cases hp : IsPassed line
  · rw [exec_feed_of_isPassed hp]
    constructor
    · rintro ⟨⟩
      exact .passed hp
    · rintro (_ | ⟨hnot, _⟩ | ⟨hnot, _⟩)
      · rfl
      · exact absurd hp hnot
      · exact absurd hp hnot
  · by_cases hm : nameMark ∈ line
    · obtain ⟨definition, t, rfl, hd⟩ := List.eq_append_cons_of_mem hm
      rw [exec_feed_of_mark hd hp]
      constructor
      · cases hread : readSymbol t with
        | error f => rintro ⟨⟩
        | ok s =>
          rintro ⟨⟩
          obtain ⟨l, o, rfl, hname, hcomma, hl, ho⟩ := readSymbol_eq_ok_iff.1 hread
          exact .symbol (f := ⟨definition, s.1, l, o⟩) hp ⟨rfl, hd, hname, hcomma⟩ hl ho
      · rintro (hpassed | ⟨-, hspells, hl, ho⟩ | ⟨-, hnot, -, -, -⟩)
        · exact absurd hpassed hp
        · obtain ⟨rfl, rfl⟩ := (append_sep_inj hd hspells.definition).1 hspells.eq
          rw [readSymbol_eq_ok_iff.2 ⟨_, _, rfl, hspells.name, hspells.line, hl, ho⟩]
        · exact absurd hm hnot
    · rw [exec_feed_of_not_mark hm hp]
      constructor
      · cases hread : readFile line with
        | error f => rintro ⟨⟩
        | ok file =>
          rintro ⟨⟩
          obtain ⟨size, n, hline, hcomma, hn⟩ := readFile_eq_ok_iff.1 hread
          exact .file hp hm hline hcomma hn
      · rintro (hpassed | ⟨-, hspells, -, -⟩ | ⟨-, -, hline, hcomma, hn⟩)
        · exact absurd hpassed hp
        · exact absurd (by simp [hspells.eq]) hm
        · rw [readFile_eq_ok_iff.2 ⟨_, _, hline, hcomma, hn⟩]

/-- A line that is a problem has done nothing by then. -/
theorem eq_of_exec_feed_eq_error {p : Problem} (h : (Session.feed line).exec x = (.error p, y)) :
    y = x := by
  by_cases hp : IsPassed line
  · rw [exec_feed_of_isPassed hp] at h
    cases h
  · by_cases hm : nameMark ∈ line
    · obtain ⟨definition, t, rfl, hd⟩ := List.eq_append_cons_of_mem hm
      rw [exec_feed_of_mark hd hp] at h
      split at h
      · cases h
      · exact (congrArg Prod.snd h).symm
    · rw [exec_feed_of_not_mark hm hp] at h
      split at h
      · cases h
      · exact (congrArg Prod.snd h).symm

theorem onEtags_line_eq (x : Session) (line : Text) : onEtags x "parse_line" [.text line] =
    match (Session.feed line).exec x with
    | (.ok _, y) => (y, .ok none)
    | (.error p, y) => (y, .error (.etags p)) := by
  have hname : named "EtagsParser" etagsOperations "parse_line" 1 = .ok "parse_line" := rfl
  have hexec : (ofEtags "parse_line" [.text line]).exec x =
      (do ExceptT.adapt .etags (Session.feed line); return none :
        Attempt Session Failure (Option (List Tag))).exec x := by
    rw [ofEtags, List.length_singleton, hname, Attempt.exec_bind, Attempt.exec_ofExcept]
    rfl
  rw [onEtags, hexec, Attempt.exec_bind, Attempt.exec_adapt]
  rcases (Session.feed line).exec x with ⟨p | u, y⟩ <;> rfl

/-- A line of the grammar does to a session what it says, and there is one way to take it apart. Any
other line is a problem, and the session is left as it was. -/
theorem onEtags_parse_line (x : Session) (line : Text) :
    (∀ y, onEtags x "parse_line" [.text line] = (y, .ok none) ↔ x.Takes line y) ∧
      (∀ f g : SymbolFields, f.Spells line → g.Spells line → f = g) ∧
      ((¬∃ y, x.Takes line y) →
        ∃ p, onEtags x "parse_line" [.text line] = (x, .error (.etags p))) := by
  simp only [← exec_feed_eq_ok_iff]
  rw [onEtags_line_eq]
  refine ⟨fun y => ?_, fun f g => SymbolFields.Spells.unique, fun hnone => ?_⟩
  · rcases (Session.feed line).exec x with ⟨p | u, z⟩
    · simp
    · simp
  · rcases h : (Session.feed line).exec x with ⟨p | u, z⟩
    · obtain rfl := eq_of_exec_feed_eq_error h
      exact ⟨p, rfl⟩
    · exact absurd ⟨z, h⟩ hnone

end ChangeFeed.Etags
