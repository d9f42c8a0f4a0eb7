import ChangeFeed.Proofs.Text.Scan
import ChangeFeed.Reference.Scanner

/-!
# What settings leave out of a scan

A scanner with more names to ignore, or without markup, reports what a wider one reports but for the
references that it leaves out (`scan_narrow`). To leave one out makes room for no other: the
component of a line is looked up before it is decided whether it is kept. `ReferencesSay` is what a
section of a configuration says about it, in any of its spellings, and `ofSection_eq_ok` the scanner
that it describes.
-/

namespace ChangeFeed

/-- A value that lists names: null lists none, and a text has commas and blanks between them. -/
inductive Value.ListsNames : Value → List Text → Prop where
  | null : ListsNames .null []
  | list (ts : List Text) : ListsNames (.ofTexts ts) ts
  | text {ts : List Text} {t : Text} :
      Text.Lists (fun c => c == ',' || Text.isBlank c) ts t → ListsNames (.text t) ts

/-- What the references section of a configuration says: whether references give events, whether
markup is looked for, and which names are ignored besides the common ones. What it does not mention
has its default. -/
structure ReferencesSay (settings : Table) (enabled markup : Bool) (ignored : List Text) :
    Prop where
  enabled : (settings.get? "enabled").getD (.bool true) = .bool enabled
  markup : (settings.get? "markup").getD (.bool true) = .bool markup
  ignored : ((settings.get? "ignore_extra").getD .null).ListsNames ignored

/-- Whether a reference is left when markup is looked for or not, and names are ignored. -/
def Reference.isLeft (markup : Bool) (ignored : List Text) (r : Reference) : Bool :=
  (markup || r.kind == .call) && !(ignored.map Value.text).contains r.name

namespace Scanner

variable {settings : Table} {enabled markup : Bool} {ignored : List Text}

/-- A scanner that ignores more names, and looks for markup only if it is told to. -/
def narrow (s : Scanner) (markup : Bool) (ignored : List Text) : Scanner :=
  ⟨s.ignore ++ ignored, s.markup && markup⟩

theorem narrow_narrow (s : Scanner) (markup markup' : Bool) (ignored ignored' : List Text) :
    (s.narrow markup ignored).narrow markup' ignored' =
      s.narrow (markup && markup') (ignored ++ ignored') := by
  simp only [narrow, List.append_assoc, Bool.and_assoc]

theorem tokens_of_listsNames {v : Value} {ts : List Text} (h : v.ListsNames ts) (setting : Text) :
    tokens setting v = .ok ts := by
  cases h with
  | null => rfl
  | list ts => simp only [tokens, Value.ofTexts, Value.texts?_map_text]
  | text hl => rw [tokens, Text.tokens_of_lists hl]

theorem ofSection_eq_ok (h : ReferencesSay settings enabled markup ignored) :
    ofSection (.table settings) = .ok (default.narrow markup ignored) := by
  have ht := tokens_of_listsNames h.ignored "references.ignore_extra"
  unfold ofSection
  rw [Value.getD_table, Value.getD_table, h.markup]
  change (tokens _ _ >>= fun extra => _) = _
  rw [ht]
  rfl

theorem filter_keeps_narrow (s : Scanner) (markup : Bool) (ignored names : List Text) :
    names.filter (s.narrow markup ignored).keeps =
      (names.filter s.keeps).filter fun name => !ignored.contains name := by
  rw [List.filter_filter]
  refine List.filter_congr fun name _ => ?_
  simp only [keeps, narrow, List.contains_append, Bool.not_or]
  rw [← Bool.and_assoc, Bool.and_comm]

theorem scanLine_narrow (s : Scanner) (markup : Bool) (ignored : List Text) (t : Text) :
    (s.narrow markup ignored).scanLine t = (s.scanLine t).filter
      fun r => (markup || r.2 == .call) && !ignored.contains r.1 := by
  have hm : (s.narrow markup ignored).markup = (s.markup && markup) := rfl
  have hc : (ReferenceKind.call == ReferenceKind.call) = true := by decide
  have hn : (ReferenceKind.markup == ReferenceKind.call) = false := by decide
  simp only [scanLine, hm, filter_keeps_narrow, List.filter_append, List.filter_map,
    Function.comp_def, hc, hn, Bool.or_true, Bool.or_false, Bool.true_and]
  congr 2
  -- without markup there is no component, so none is left out
  cases markup <;> cases s.markup <;> simp

theorem scanAdded_narrow (s : Scanner) (markup : Bool) (ignored : List Text) (file : Value)
    (l : Line) : (s.narrow markup ignored).scanAdded file l =
      (s.scanAdded file l).filter (Reference.isLeft markup ignored) := by
  unfold scanAdded
  rw [scanLine_narrow, List.filter_map]
  congr 1
  exact List.filter_congr fun r _ => by simp [Reference.isLeft]

theorem scanHunk_narrow (s : Scanner) (markup : Bool) (ignored : List Text) (h : Hunk) :
    (s.narrow markup ignored).scanHunk h =
      (s.scanHunk h).filter (Reference.isLeft markup ignored) := by
  rw [scanHunk, scanHunk, List.filter_flatMap]
  congr 1
  exact funext (s.scanAdded_narrow markup ignored h.filename)

/-- A narrow scanner finds what the wider one finds, less what it leaves out. -/
theorem scan_narrow (s : Scanner) (markup : Bool) (ignored : List Text) (hs : List Hunk) :
    (s.narrow markup ignored).scan hs = (s.scan hs).filter (Reference.isLeft markup ignored) := by
  rw [scan, scan, List.filter_flatMap]
  congr 1
  exact funext (s.scanHunk_narrow markup ignored)

end Scanner

end ChangeFeed
