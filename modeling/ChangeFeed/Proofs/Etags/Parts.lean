import ChangeFeed.Etags.Entry
import ChangeFeed.Proofs.Reference.Words
import ChangeFeed.Proofs.Text.FirstPart

/-!
# Definitions that are cut inside their keyword

A definition is cut around the first place where its name stands. Behind a keyword and a space that
is the place of the name exactly if the keyword does not contain the name (`Text.isFirst_behind`,
`Text.IsFirst.append`), and a short name such as `f` is part of many keywords.
`Parts.ofDefinition?_eq_iff` says what becomes of the definition either way.
-/

namespace ChangeFeed

namespace Scanner

theorem space_not_mem_of_isWordRun {name : Text} (h : IsWordRun name) : ' ' ∉ name :=
  fun hspace => absurd (Text.isBlank_of_isWord (h ' ' hspace)) (by decide)

end Scanner

namespace Etags
variable {keyword name : Text}

namespace Parts

/-- The parts of a definition with the texts in front of its name and behind. -/
def around (name front : Text) : Text → Parts
  | ':' :: type => ⟨name, Text.strip front, Text.strip type, [':']⟩
  | type => ⟨name, Text.strip front, type, []⟩

theorem ofDefinition?_of_isFirst {definition front back : Text}
    (h : Text.IsFirst name definition front back) :
    ofDefinition? definition name = some (around name front back) := by
  rw [ofDefinition?, Text.cutAround?_eq_some_iff.2 h]
  rfl

theorem keyword_around (name front back : Text) :
    (around name front back).keyword = Text.strip front := by
  unfold around
  split <;> rfl

theorem length_kind_around_lt {front back : Text} (hname : name ≠ [])
    (h : Text.IsFirst name keyword front back) (more : Text) :
    (around name front more).kind.length < keyword.length := by
  have hpos := List.length_pos_iff.2 hname
  have hle := Text.length_strip_le front
  rw [kind, keyword_around, h.eq]
  simp only [List.length_append]
  omega

section
variable (hkeyword : Text.strip keyword = keyword) (hname : name ≠ [])
  (hword : Scanner.IsWordRun name)
include hname hword

theorem ofDefinition?_behind (h : ¬name <:+: keyword) (rest : Text) :
    ofDefinition? (keyword ++ ' ' :: (name ++ rest)) name =
      some (around name (keyword ++ [' ']) rest) :=
  ofDefinition?_of_isFirst
    (Text.isFirst_behind hname (Scanner.space_not_mem_of_isWordRun hword) h rest)

include hkeyword

theorem map_kind_ofDefinition?_eq_iff (rest : Text) :
    (ofDefinition? (keyword ++ ' ' :: (name ++ rest)) name).map kind = some keyword ↔
      ¬name <:+: keyword := by
  refine ⟨fun hkind hinside => ?_, fun h => ?_⟩
  · obtain ⟨front, back, h⟩ := Text.exists_isFirst hinside
    rw [ofDefinition?_of_isFirst (h.append _), Option.map_some, Option.some.injEq] at hkind
    have hlt := length_kind_around_lt hname h (back ++ ' ' :: (name ++ rest))
    rw [hkind] at hlt
    exact Nat.lt_irrefl _ hlt
  · rw [ofDefinition?_behind hname hword h, Option.map_some, kind, keyword_around,
      Text.strip_append_space hkeyword]

theorem ofDefinition?_eq_some_iff {rest : Text} {p : Parts} (hp : p.kind = keyword)
    (haround : around name (keyword ++ [' ']) rest = p) :
    ofDefinition? (keyword ++ ' ' :: (name ++ rest)) name = some p ↔ ¬name <:+: keyword := by
  refine ⟨fun hparts => ?_, fun h => ?_⟩
  · rw [← map_kind_ofDefinition?_eq_iff hkeyword hname hword rest, hparts,
      Option.map_some, hp]
  · rw [ofDefinition?_behind hname hword h, haround]

/-- A definition starts with a keyword that has no blanks at its ends, and a space and the name
follow. If the keyword does not contain the name, the definition is cut where the name stands.
Otherwise it is cut around the first such place in the keyword, and what is found of the keyword is
shorter. -/
theorem ofDefinition?_eq_iff (rest : Text) :
    let parts := ofDefinition? (keyword ++ ' ' :: (name ++ rest)) name
    (rest.head? ≠ some ':' → (parts = some ⟨name, keyword, rest, []⟩ ↔ ¬name <:+: keyword)) ∧
      (∀ type, rest = ':' :: type →
        (parts = some ⟨name, keyword, Text.strip type, [':']⟩ ↔ ¬name <:+: keyword)) ∧
      ∀ front back, Text.IsFirst name keyword front back →
        ∃ p, parts = some p ∧ p = around name front (back ++ ' ' :: (name ++ rest)) ∧
          p.kind.length < keyword.length := by
  refine ⟨fun hrest => ?_, ?_, fun front back h => ?_⟩
  · refine ofDefinition?_eq_some_iff hkeyword hname hword rfl ?_
    unfold around
    split
    · exact absurd rfl hrest
    · rw [Text.strip_append_space hkeyword]
  · rintro type rfl
    refine ofDefinition?_eq_some_iff hkeyword hname hword rfl ?_
    rw [around, Text.strip_append_space hkeyword]
  · exact ⟨_, ofDefinition?_of_isFirst (h.append _), rfl, length_kind_around_lt hname h _⟩

end

/-- The name `f` is part of `def`. -/
theorem ofDefinition?_shortName :
    let keyword : Text := "def"
    let name : Text := "f"
    let parts := ofDefinition? (keyword ++ ' ' :: (name ++ "(x)")) name
    Text.strip keyword = keyword ∧ name ≠ [] ∧ Scanner.IsWordRun name ∧
      parts ≠ some ⟨name, keyword, "(x)", []⟩ ∧ parts = some ⟨name, "de", " f(x)", []⟩ := by
  intro keyword name parts
  have hkeyword : Text.strip keyword = keyword := by decide
  have hname : name ≠ [] := by decide
  have hword : Scanner.IsWordRun name := by decide
  have hfirst : Text.IsFirst name keyword "de" [] := Text.isFirst_of_cutAround? (by decide)
  obtain ⟨hwhole, -, hpart⟩ := ofDefinition?_eq_iff hkeyword hname hword "(x)"
  obtain ⟨p, hparts, rfl, -⟩ := hpart _ _ hfirst
  exact ⟨hkeyword, hname, hword, fun h => (hwhole (by decide)).1 h (by decide), hparts⟩

end Parts

theorem Entry.kind_toTag?_eq_iff {e : Entry} {rest : Text} (hkeyword : Text.strip keyword = keyword)
    (hname : e.name ≠ []) (hword : Scanner.IsWordRun e.name)
    (he : e.definition = keyword ++ ' ' :: (e.name ++ rest)) :
    e.toTag?.map Tag.kind = some (.text keyword) ↔ ¬e.name <:+: keyword := by
  rw [← Parts.map_kind_ofDefinition?_eq_iff hkeyword hname hword rest, ← he, toTag?,
    Option.map_map]
  cases Parts.ofDefinition? e.definition e.name with
  | none => simp
  | some p => simp

end Etags

end ChangeFeed
