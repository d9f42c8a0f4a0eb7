import ChangeFeed.Proofs.Analyzer.Append
import ChangeFeed.Proofs.Reference.Settings

/-!
# What the references section does to a batch

The references section of a configuration decides about references only: with another section, a
batch has the same events of tags, and of the references those that the section leaves
(`build_of_referencesSay`). That one of them is left out changes nothing about another.
-/

namespace ChangeFeed

section Config

variable (base settings : Table)

/-- A configuration with another references section. -/
def Config.withReferences : Value := .table (base.set "references" (.table settings))

theorem Git.Client.ofConfig_withReferences :
    ofConfig (Config.withReferences base settings) = ofConfig (.table base) := by
  unfold ofConfig Config.withReferences
  rw [Value.getD_set_of_ne (by decide), Value.getD_set_of_ne (by decide)]

theorem Ctags.Client.ofConfig_withReferences :
    ofConfig (Config.withReferences base settings) = ofConfig (.table base) := by
  unfold ofConfig Config.withReferences
  rw [Value.getD_set_of_ne (by decide)]

end Config

namespace Analyzer

variable {base settings₀ settings : Table} {enabled markup : Bool} {ignored : List Text}

/-- What a configuration says about the programs that are asked. -/
def clients (config : Value) : Except Failure (Git.Client × Ctags.Client) := do
  let git ← (Git.Client.ofConfig config).mapError Failure.misuse
  let ctags ← Ctags.Client.ofConfig config
  return (git, ctags)

theorem ofConfig_of_referencesSay (h : ReferencesSay settings enabled markup ignored) :
    ofConfig (Config.withReferences base settings) = (clients (.table base)).map fun c =>
      ⟨c.1, c.2, Scanner.default.narrow markup ignored, enabled⟩ := by
  have hr : (Config.withReferences base settings).getD "references" (.table []) =
      .ok (.table settings) := Value.getD_set_self ..
  have hs : Scanner.ofConfig (Config.withReferences base settings) =
      .ok (Scanner.default.narrow markup ignored) := by
    unfold Scanner.ofConfig
    rw [hr]
    exact Scanner.ofSection_eq_ok h
  have he : (Value.table settings).getD "enabled" (.bool true) = .ok (.bool enabled) := by
    rw [Value.getD_table, h.enabled]
  unfold ofConfig clients
  rw [Git.Client.ofConfig_withReferences, Ctags.Client.ofConfig_withReferences, hs, hr]
  cases Git.Client.ofConfig (.table base) with
  | error p => rfl
  | ok git =>
    cases Ctags.Client.ofConfig (.table base) with
    | error p => rfl
    | ok ctags =>
      simp only [Except.mapError, bind, Except.bind, he]
      rfl

/-- The analyzer that leaves out more references. -/
def narrow (enabled markup : Bool) (ignored : List Text) (a : Analyzer) : Analyzer :=
  { a with
    scanner := a.scanner.narrow markup ignored
    references := a.references && enabled }

/-- A references section does no more than to narrow the analyzer of the default section. -/
theorem ofConfig_eq_map_narrow (h₀ : ReferencesSay settings₀ true true [])
    (h : ReferencesSay settings enabled markup ignored) :
    ofConfig (Config.withReferences base settings) =
      (ofConfig (Config.withReferences base settings₀)).map (narrow enabled markup ignored) := by
  rw [ofConfig_of_referencesSay h, ofConfig_of_referencesSay h₀]
  cases clients (.table base) with
  | error p => rfl
  | ok c =>
    simp only [Except.map, narrow, Scanner.narrow_narrow, Bool.true_and, List.nil_append]

theorem findings_narrow (a : Analyzer) (enabled markup : Bool) (ignored : List Text)
    (tags : List Tag) (hs : List Hunk) :
    (a.narrow enabled markup ignored).findings tags hs =
      { a.findings tags hs with
        references := (a.findings tags hs).references.filter fun r =>
          enabled && r.isLeft markup ignored } := by
  simp only [findings, narrow, Scanner.scan_narrow]
  cases a.references <;> cases enabled <;> simp

/-- Whatever a references section says, the batch that is built under it is the one that is built
under the default section, without the events and the subscriptions of the references that it leaves
out: all of them if references give no events, else markup that is not looked for and names that are
ignored. -/
theorem build_of_referencesSay {a₀ : Analyzer} (h₀ : ReferencesSay settings₀ true true [])
    (h : ReferencesSay settings enabled markup ignored)
    (ha : ofConfig (Config.withReferences base settings₀) = .ok a₀) :
    ∃ a, ofConfig (Config.withReferences base settings) = .ok a ∧
      ∀ {diff : Text} {hs : List Hunk} {tags : List Tag} {c : Commit} {author url : Text},
        Diff.parse diff = .ok hs → (∀ t ∈ tags, t.file.isKey) → c.authorName = .text author →
        c.url = .ok url →
        ∃ o f, c.occasion = .ok o ∧ a₀.examine diff tags = .ok f ∧
          a₀.build diff tags c = .ok (.onOccasion o f.changed f.references) ∧
          a.build diff tags c = .ok (.onOccasion o f.changed
            (f.references.filter fun r => enabled && r.isLeft markup ignored)) := by
  refine ⟨a₀.narrow enabled markup ignored, ?_, fun hp ht hn hu => ?_⟩
  · rw [ofConfig_eq_map_narrow h₀ h, ha]
    rfl
  · obtain ⟨o, ho⟩ := Commit.exists_occasion hn hu
    have hf := examine_eq_ok (a := a₀) hp ht
    have hf' := examine_eq_ok (a := a₀.narrow enabled markup ignored) hp ht
    rw [findings_narrow] at hf'
    exact ⟨o, _, ho, hf, build_eq_ok hn ho hf, build_eq_ok hn ho hf'⟩

/-- The references section of the default configuration. -/
def standard : Table := [
  ("enabled", .bool true), ("markup", .bool true), ("ignore_extra", .list [])]

theorem referencesSay_standard : ReferencesSay standard true true [] where
  enabled := rfl
  markup := rfl
  ignored := .list []

theorem withReferences_standard :
    Config.withReferences Config.defaults standard = .table Config.defaults := rfl

/-- A references section without markup that ignores two more names. -/
def quiet : Table := [
  ("enabled", .bool true), ("markup", .bool false), ("ignore_extra", .text " save,\tload ")]

theorem referencesSay_quiet : ReferencesSay quiet true false ["save", "load"] where
  enabled := rfl
  markup := rfl
  ignored := .text (.sep rfl (.token (x := "save") (by decide) rfl
    (.sep rfl (.token (x := "load") (by decide) rfl .nil))))

theorem build_quiet :
    ReferencesSay standard true true [] ∧ ReferencesSay quiet true false ["save", "load"] ∧
      ofConfig (Config.withReferences Config.defaults standard) = .ok default ∧
      (∀ t ∈ SymbolIndex.interleaved, t.file.isKey) ∧
      ∃ a o f, ofConfig (Config.withReferences Config.defaults quiet) = .ok a ∧
        Commit.byJane.occasion = .ok o ∧
        default.examine secondDiff SymbolIndex.interleaved = .ok f ∧
        a.build secondDiff SymbolIndex.interleaved Commit.byJane = .ok (.onOccasion o f.changed
          (f.references.filter fun r => r.isLeft false ["save", "load"])) ∧
        (f.references.filter fun r => r.isLeft false ["save", "load"]) =
          [⟨.text "run", .call, .text "a.go", 10, .text "<Panel>{run(1)}"⟩] := by
  have ha : ofConfig (Config.withReferences Config.defaults standard) = .ok default := by
    rw [withReferences_standard, ofConfig_defaults]
  have ht : ∀ t ∈ SymbolIndex.interleaved, t.file.isKey := by decide
  obtain ⟨a, hq, hb⟩ := build_of_referencesSay referencesSay_standard referencesSay_quiet ha
  obtain ⟨o, f, ho, hf, -, hb⟩ := hb parse_secondDiff ht rfl Commit.url_byJane
  refine ⟨referencesSay_standard, referencesSay_quiet, ha, ht, a, o, f, hq, ho, hf, hb, ?_⟩
  cases hf.symm.trans (examine_eq_ok parse_secondDiff ht)
  decide +kernel

end Analyzer

end ChangeFeed
