import ChangeFeed.Config.Merge
import ChangeFeed.Proofs.Config.Overrides
import ChangeFeed.Proofs.Reference.Settings
import ChangeFeed.Proofs.Reference.Words

/-!
# Names to ignore from a variable

The text of a variable is looked at twice: first for a truth value or a whole number, and what is
left a text is then cut into names. Several names have commas between them, so they are left a text;
a single name is lost if it looks like something else (`IsCoerced`), although the same name is taken
from a configuration file.
-/

namespace ChangeFeed

/-! ### Marks in texts -/

namespace Text

theorem mem_lowerAfter {c : Char} (hc : c.toNat < 128) (hu : isAsciiUpper c = false)
    {before t : Text} (h : c ∈ t) : c ∈ lowerAfter before t := by
  induction t generalizing before with
  | nil => cases h
  | cons d t ih =>
    rw [lowerAfter, List.mem_append]
    rcases List.mem_cons.1 h with rfl | h
    · left
      have hsigma : (c.toNat == 0x3a3) = false := by
        rw [beq_eq_false_iff_ne]
        omega
      have hdotted : (c.toNat == 0x130) = false := by
        rw [beq_eq_false_iff_ne]
        omega
      simp [hsigma, hdotted, lowerChar, hc, hu]
    · exact .inr (ih h)

theorem comma_mem_join {a b : Text} (ts : List Text) : ',' ∈ join "," (a :: b :: ts) := by
  rw [join_cons, if_neg (List.cons_ne_nil _ _)]
  simp

end Text

namespace Config

/-! ### Texts that stand for something else -/

/-- The texts that stand for truth values, in small letters. -/
def truthWords : List Text := ["true", "yes", "on", "false", "no", "off"]

/-- A text stands for a truth value, or consists of digits only. -/
def IsCoerced (t : Text) : Prop := Text.lower t ∈ truthWords ∨ Text.isDigitText t = true

instance (t : Text) : Decidable (IsCoerced t) := inferInstanceAs (Decidable (_ ∨ _))

theorem mem_truthWords_iff {t : Text} : t ∈ truthWords ↔
    (t = "true".toList ∨ t = "yes".toList ∨ t = "on".toList) ∨
      t = "false".toList ∨ t = "no".toList ∨ t = "off".toList := by
  simp [truthWords, or_assoc]

theorem valueOf_of_not_isCoerced {t : Text} (h : ¬IsCoerced t) : valueOf t = .ok (.text t) := by
  rw [IsCoerced, mem_truthWords_iff, not_or, not_or] at h
  obtain ⟨⟨htrue, hfalse⟩, hdigits⟩ := h
  rw [valueOf, if_neg htrue, if_neg hfalse, if_neg hdigits]

theorem valueOf_of_isCoerced {t : Text} (h : IsCoerced t) :
    (∃ b, valueOf t = .ok (.bool b)) ∨ (∃ n, valueOf t = .ok (.int n)) ∨
      ∃ p, valueOf t = .error p := by
  rw [IsCoerced, mem_truthWords_iff, or_assoc] at h
  simp only [valueOf]
  split
  · exact .inl ⟨true, rfl⟩
  · next htrue =>
    split
    · exact .inl ⟨false, rfl⟩
    · next hfalse =>
      have hdigits : Text.isDigitText t = true := (h.resolve_left htrue).resolve_left hfalse
      rw [if_pos hdigits]
      cases hn : Numeral.read t with
      | error p => exact .inr (.inr ⟨p, rfl⟩)
      | ok n => exact .inr (.inl ⟨n, rfl⟩)

theorem not_isCoerced_of_comma_mem {t : Text} (h : ',' ∈ t) : ¬IsCoerced t := by
  rintro (hword | hdigits)
  · have hnone : ∀ w ∈ truthWords, ',' ∉ w := by decide
    exact hnone _ hword (Text.mem_lowerAfter (by decide) (by decide) h)
  · simp only [Text.isDigitText, Bool.and_eq_true, List.all_eq_true] at hdigits
    exact absurd (hdigits.2 ',' h) (by decide)

/-! ### The setting -/

/-- The variable for the names to ignore. -/
def ignoreVariable : Text := "DEFEVENTS_REFERENCES_IGNORE_EXTRA"

/-- The default configuration with a list of names to ignore. -/
def ignoring (v : Value) : Table :=
  defaults.set "references"
    (.table [("enabled", .bool true), ("markup", .bool true), ("ignore_extra", v)])

theorem pathOf?_ignoreVariable :
    pathOf? ignoreVariable = some ["references".toList, "ignore".toList, "extra".toList] := by
  decide

theorem replaceAt_ignore_extra (v : Value) :
    replaceAt v 3 ["references", "ignore", "extra"] defaults = .ok (ignoring v) := by rfl

theorem overrideAll_ignoreVariable (t : Text) :
    overrideAll [(ignoreVariable, t)] (.table defaults) =
      ((valueOf t).mapError Failure.numeral).map fun v => .table (ignoring v) := by
  rw [overrideAll, List.foldlM_cons, override, pathOf?_ignoreVariable]
  cases valueOf t with
  | error p => rfl
  | ok v =>
    have hreplace := replaceAt_ignore_extra v
    show ((replaceAt v 3 ["references", "ignore", "extra"] defaults).mapError Failure.misuse >>=
      fun t => .ok (Value.table t)) = _
    rw [hreplace]
    rfl

theorem merge_ignore_extra (v : Value) :
    merge (.table defaults) (.table [("references", .table [("ignore_extra", v)])]) =
      .ok (.table (ignoring v)) := by
  simp [merge, isLayer, Value.entriesFor, mergeEntries, mergeValue, defaults, ignoring, Table.get?,
    Table.set]

theorem ofConfig_of_file (v : Value) :
    ((merge (.table defaults)
        (.table [("references", .table [("ignore_extra", v)])])).mapError Failure.misuse >>=
      Scanner.ofConfig) = Scanner.ofConfig (.table (ignoring v)) := by
  rw [merge_ignore_extra]
  rfl

theorem ofConfig_of_variable {t : Text} {v : Value} (h : valueOf t = .ok v) :
    (overrideAll [(ignoreVariable, t)] (.table defaults) >>= Scanner.ofConfig) =
      Scanner.ofConfig (.table (ignoring v)) := by
  rw [overrideAll_ignoreVariable, h]
  rfl

theorem ofConfig_ignoring {v : Value} {names : List Text} (h : v.ListsNames names) :
    Scanner.ofConfig (.table (ignoring v)) = .ok ⟨Scanner.defaultIgnore ++ names, true⟩ := by
  have hsay : ReferencesSay [("enabled", .bool true), ("markup", .bool true), ("ignore_extra", v)]
      true true names := ⟨rfl, rfl, h⟩
  exact Scanner.ofSection_eq_ok hsay

theorem listsNames_join {names : List Text}
    (h : ∀ name ∈ names, name ≠ [] ∧ Scanner.IsWordRun name) :
    Value.ListsNames (.text (Text.join "," names)) names := by
  refine .text (Text.lists_join (by decide) ?_)
  intro name hname
  obtain ⟨hne, hword⟩ := h name hname
  refine ⟨hne, ?_⟩
  intro c hc
  have hcomma : c ≠ ',' := by
    rintro rfl
    exact absurd (hword ',' hc) (by decide)
  simp [hcomma, Text.isBlank_of_isWord (hword c hc)]

theorem ofConfig_ignoring_of_isCoerced {t : Text} {v : Value} (h : IsCoerced t)
    (hv : valueOf t = .ok v) : Scanner.ofConfig (.table (ignoring v)) =
      .error (.about v (.tokens "references.ignore_extra" v)) := by
  rcases valueOf_of_isCoerced h with ⟨b, hb⟩ | ⟨n, hn⟩ | ⟨p, hp⟩
  · obtain rfl := Except.ok.inj (hv.symm.trans hb)
    rfl
  · obtain rfl := Except.ok.inj (hv.symm.trans hn)
    rfl
  · rw [hv] at hp
    cases hp

theorem isCoerced_join_iff {names : List Text} (hne : names ≠ []) :
    IsCoerced (Text.join "," names) ↔ ∃ name, names = [name] ∧ IsCoerced name := by
  match names, hne with
  | [name], _ =>
    have hjoin : Text.join "," [name] = name := List.intercalate_singleton
    rw [hjoin]
    constructor
    · intro h
      exact ⟨name, rfl, h⟩
    · rintro ⟨other, heq, h⟩
      obtain rfl := List.singleton_inj.1 heq
      exact h
  | a :: b :: names, _ =>
    constructor
    · intro h
      exact absurd h (not_isCoerced_of_comma_mem (Text.comma_mem_join names))
    · rintro ⟨other, heq, -⟩
      cases heq

/-- A configuration file sets the names to ignore, whatever they are. A variable sets the same ones
unless there is only one and it stands for something else; then there is no scanner at all. -/
theorem ofConfig_ignoreVariable {names : List Text} (hne : names ≠ [])
    (hnames : ∀ name ∈ names, name ≠ [] ∧ Scanner.IsWordRun name) :
    let listed : Except Failure Scanner := .ok ⟨Scanner.defaultIgnore ++ names, true⟩
    let file : Table := [("references", .table [("ignore_extra", .ofTexts names)])]
    let fromFile := (merge (.table defaults) (.table file)).mapError Failure.misuse >>=
      Scanner.ofConfig
    let fromVariable := overrideAll [(ignoreVariable, Text.join "," names)] (.table defaults) >>=
      Scanner.ofConfig
    fromFile = listed ∧
      (fromVariable = listed ↔ ¬∃ name, names = [name] ∧ IsCoerced name) ∧
      ∀ name, names = [name] → IsCoerced name → ∃ f, fromVariable = .error f ∧
        ((∃ p, valueOf name = .error p ∧ f = .numeral p) ∨
          ∃ v, valueOf name = .ok v ∧ f = .about v (.tokens "references.ignore_extra" v)) := by
  intro listed file fromFile fromVariable
  have hfail : ∀ name, names = [name] → IsCoerced name → ∃ f, fromVariable = .error f ∧
      ((∃ p, valueOf name = .error p ∧ f = .numeral p) ∨
        ∃ v, valueOf name = .ok v ∧ f = .about v (.tokens "references.ignore_extra" v)) := by
    rintro name rfl hname
    have hjoin : Text.join "," [name] = name := List.intercalate_singleton
    simp only [fromVariable, hjoin]
    cases hv : valueOf name with
    | error p =>
      rw [overrideAll_ignoreVariable, hv]
      exact ⟨.numeral p, rfl, .inl ⟨p, rfl, rfl⟩⟩
    | ok v =>
      rw [ofConfig_of_variable hv, ofConfig_ignoring_of_isCoerced hname hv]
      exact ⟨_, rfl, .inr ⟨v, rfl, rfl⟩⟩
  refine ⟨?_, ⟨?_, ?_⟩, hfail⟩
  · rw [show fromFile = _ from ofConfig_of_file (.ofTexts names), ofConfig_ignoring (.list names)]
  · rintro hlisted ⟨name, hone, hname⟩
    obtain ⟨f, hf, -⟩ := hfail name hone hname
    rw [hlisted] at hf
    exact nomatch (show Except.ok _ = Except.error f from hf)
  · intro hnone
    rw [← isCoerced_join_iff hne] at hnone
    have hv := valueOf_of_not_isCoerced hnone
    rw [show fromVariable = _ from ofConfig_of_variable hv,
      ofConfig_ignoring (listsNames_join hnames)]

theorem ofConfig_ignoreVariable_log :
    (overrideAll [(ignoreVariable, "log,debugf")] (.table defaults) >>= Scanner.ofConfig) =
        .ok ⟨Scanner.defaultIgnore ++ ["log".toList, "debugf".toList], true⟩ ∧
      ∃ f, (overrideAll [(ignoreVariable, "on")] (.table defaults) >>= Scanner.ofConfig) =
        .error f := by
  constructor
  · have hnames : ∀ name ∈ ["log".toList, "debugf".toList], name ≠ [] ∧ Scanner.IsWordRun name :=
      by decide
    refine (ofConfig_ignoreVariable (by decide) hnames).2.1.2 ?_
    rintro ⟨name, heq, -⟩
    cases heq
  · have hname : ∀ name ∈ ["on".toList], name ≠ [] ∧ Scanner.IsWordRun name :=
      by decide
    obtain ⟨f, hf, -⟩ :=
      (ofConfig_ignoreVariable (by decide) hname).2.2 "on".toList rfl (by decide)
    exact ⟨f, hf⟩

end Config

end ChangeFeed
