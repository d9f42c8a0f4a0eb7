import ChangeFeed.Proofs.Analyzer.Build
import ChangeFeed.Proofs.Diff.Append

/-!
# The events of two diffs

Where one diff stands behind another (`Diff.parse_append`), its events do too: the tags that one of
the two changes are each reported once, in their common order by line, and the references of the
second follow those of the first (`build_append`).
-/

namespace ChangeFeed

open Diff

namespace Analyzer

theorem findings_append_changed (a : Analyzer) (tags : List Tag) (hs₁ hs₂ : List Hunk) :
    (a.findings tags (hs₁ ++ hs₂)).changed = (SymbolIndex.sortByLine tags).filter
      fun t => t ∈ (a.findings tags hs₁).changed ∨ t ∈ (a.findings tags hs₂).changed :=
  SymbolIndex.changed_append (SymbolIndex.ordered_sortByLine tags) hs₁ hs₂

theorem findings_append_references (a : Analyzer) (tags : List Tag) (hs₁ hs₂ : List Hunk) :
    (a.findings tags (hs₁ ++ hs₂)).references =
      (a.findings tags hs₁).references ++ (a.findings tags hs₂).references := by
  simp only [findings, Scanner.scan]
  split
  · exact List.flatMap_append
  · rfl

/-- A diff that begins with the header of a file is read behind another text as it is read alone.
Its batch there has the events of the tags, in their order by line, that one of the two changes, and
behind them those of the references of both. -/
theorem build_append {d₁ d₂ : Text} (h : startsWithFile d₂) :
    (parse (d₁ ++ '\n' :: d₂) = do
      let hs₁ ← parse d₁
      let hs₂ ← parse d₂
      return hs₁ ++ hs₂) ∧
    ∀ (a : Analyzer) {tags : List Tag} {c : Commit} {author url : Text} {hs₁ hs₂ : List Hunk},
      (∀ t ∈ tags, t.file.isKey) → c.authorName = .text author → c.url = .ok url →
      parse d₁ = .ok hs₁ → parse d₂ = .ok hs₂ →
      ∃ o sorted f₁ f₂, c.occasion = .ok o ∧ StableOrder tags sorted ∧
        a.examine d₁ tags = .ok f₁ ∧
        a.build d₁ tags c = .ok (.onOccasion o f₁.changed f₁.references) ∧
        a.examine d₂ tags = .ok f₂ ∧
        a.build d₂ tags c = .ok (.onOccasion o f₂.changed f₂.references) ∧
        a.build (d₁ ++ '\n' :: d₂) tags c = .ok (.onOccasion o
          (sorted.filter fun t => t ∈ f₁.changed ∨ t ∈ f₂.changed)
          (f₁.references ++ f₂.references)) := by
  have hp : parse (d₁ ++ '\n' :: d₂) = _ := parse_append h
  refine ⟨hp, fun a tags c author url hs₁ hs₂ ht hn hu h₁ h₂ => ?_⟩
  obtain ⟨o, ho⟩ := c.exists_occasion hn hu
  have hf₁ : a.examine d₁ tags = .ok (a.findings tags hs₁) := examine_eq_ok h₁ ht
  have hf₂ : a.examine d₂ tags = .ok (a.findings tags hs₂) := examine_eq_ok h₂ ht
  have hf : a.examine (d₁ ++ '\n' :: d₂) tags = .ok (a.findings tags (hs₁ ++ hs₂)) :=
    examine_eq_ok (by rw [hp, h₁, h₂]; rfl) ht
  have hb := build_eq_ok hn ho hf
  rw [findings_append_changed, findings_append_references] at hb
  exact ⟨o, _, _, _, ho, SymbolIndex.stableOrder_sortByLine tags, hf₁, build_eq_ok hn ho hf₁, hf₂,
    build_eq_ok hn ho hf₂, hb⟩

/-- A diff that ends in an open hunk. -/
def firstDiff : Text := "commit 4b825dc\ndiff --git a/a.go b/a.go\n@@ -1 +1 @@\n+load(x)"

/-- A diff of the same file and of another one. -/
def secondDiff : Text :=
  "diff --git a/a.go b/a.go\n@@ -2,0 +2,9 @@\n+<Panel>{run(1)}\ndiff --git a/b.go b/b.go\n" ++
    "@@ -4 +4 @@\n+load(y)\n"

theorem parse_secondDiff : parse secondDiff = .ok [
    ⟨.text "a.go", 2, 1, 2, 10, [], [⟨10, "<Panel>{run(1)}"⟩]⟩,
    ⟨.text "b.go", 4, 4, 4, 4, [], [⟨4, "load(y)"⟩]⟩] := by decide +kernel

theorem build_append_sameFile :
    startsWithFile secondDiff ∧ (∀ t ∈ SymbolIndex.interleaved, t.file.isKey) ∧
      ∃ hs₁ hs₂ o sorted f₁ f₂, parse firstDiff = .ok hs₁ ∧ parse secondDiff = .ok hs₂ ∧
        parse (firstDiff ++ '\n' :: secondDiff) = .ok (hs₁ ++ hs₂) ∧
        Commit.byJane.occasion = .ok o ∧ StableOrder SymbolIndex.interleaved sorted ∧
        default.examine firstDiff SymbolIndex.interleaved = .ok f₁ ∧
        default.examine secondDiff SymbolIndex.interleaved = .ok f₂ ∧
        default.build (firstDiff ++ '\n' :: secondDiff) SymbolIndex.interleaved Commit.byJane =
          .ok (.onOccasion o (sorted.filter fun t => t ∈ f₁.changed ∨ t ∈ f₂.changed)
            (f₁.references ++ f₂.references)) := by
  have h : startsWithFile secondDiff := by decide
  have ht : ∀ t ∈ SymbolIndex.interleaved, t.file.isKey := by decide
  have h₁ : parse firstDiff = .ok [⟨.text "a.go", 1, 1, 1, 1, [], [⟨1, "load(x)"⟩]⟩] := by
    decide +kernel
  have ha : parse (firstDiff ++ '\n' :: secondDiff) = _ ∧ _ := build_append h
  obtain ⟨hp, hb⟩ := ha
  obtain ⟨o, sorted, f₁, f₂, ho, hs, hf₁, -, hf₂, -, hb⟩ :=
    hb default ht rfl Commit.url_byJane h₁ parse_secondDiff
  refine ⟨h, ht, _, _, o, sorted, f₁, f₂, h₁, parse_secondDiff, ?_, ho, hs, hf₁, hf₂, hb⟩
  rw [hp, h₁, parse_secondDiff]
  rfl

end Analyzer

end ChangeFeed
