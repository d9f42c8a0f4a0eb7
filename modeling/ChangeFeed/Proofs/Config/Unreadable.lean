import ChangeFeed.Proofs.Config.IgnoreList
import ChangeFeed.Proofs.Config.Sections
import ChangeFeed.Proofs.Text.DigitText

/-!
# Variables that cannot be read

The text of a variable is taken for a whole number if it consists of digit characters, and these are
not always a numeral. No other text is refused (`exists_valueOf_iff`), and no search for a setting
fails. But a text is read in front of the search, so the first variable that cannot be read stops
all of them, whether a setting has its name or not (`overrideAll_defaults_iff`).
-/

namespace ChangeFeed.Config

variable {t : Table} {v : Value} {parts : List Text} {text : Text}
  {environment : List (Text × Text)}

/-- A variable may override a setting: its name has the common start, and is not that of the
configuration file. -/
def MayOverride (name : Text) : Prop := name ≠ fileVariable ∧ variableStart <+: name

/-- If there are only digit characters in a text, they are decimal digits, and no more than a
numeral may have. -/
def IsReadable (text : Text) : Prop := Text.isDigitText text = true →
  (∀ c ∈ text, Text.isDecimal c = true) ∧ text.length ≤ Numeral.maxDigits

instance (name : Text) : Decidable (MayOverride name) := inferInstanceAs (Decidable (_ ∧ _))

instance (text : Text) : Decidable (IsReadable text) := inferInstanceAs (Decidable (_ → _))

theorem mayOverride_iff {name : Text} : MayOverride name ↔ ∃ parts, pathOf? name = some parts := by
  rw [MayOverride, pathOf?]
  by_cases hname : name = fileVariable
  · simp [hname]
  · rw [if_neg hname, and_iff_right hname, ← Text.startsWith_iff, Text.startsWith]
    cases Text.rest? variableStart name <;> simp

/-! ### Texts of variables -/

theorem valueOf_of_isDigitText (h : Text.isDigitText text = true) :
    valueOf text = (Numeral.read text).map .int := by
  have hword : Text.lower text ∉ truthWords := by
    obtain ⟨hne, hall⟩ := Text.isDigitText_iff.1 h
    obtain ⟨c, t, rfl⟩ := List.exists_cons_of_ne_nil hne
    have hc : Text.isDigitLike c = true := hall c List.mem_cons_self
    have hletter : ∀ w ∈ truthWords, w.head?.any Text.isDigitLike = false := by decide
    rw [Text.lower_cons_of_isDigitLike hc]
    intro hmem
    have hfirst := hletter _ hmem
    rw [List.head?_cons, Option.any_some, hc] at hfirst
    cases hfirst
  rw [mem_truthWords_iff, not_or] at hword
  rw [valueOf, if_neg hword.1, if_neg hword.2, if_pos h]

theorem exists_valueOf_iff : (∃ v, valueOf text = .ok v) ↔ IsReadable text := by
  by_cases h : Text.isDigitText text = true
  · rw [IsReadable, forall_prop_of_true h, ← Numeral.exists_read_iff_of_isDigitText h,
      valueOf_of_isDigitText h]
    simp [map_eq_ok_iff]
  · exact iff_of_true (exists_valueOf_eq_ok fun hdigits => absurd hdigits h)
      fun hdigits => absurd hdigits h

theorem valueOf_of_not_isReadable (h : ¬IsReadable text) :
    ∃ p, Numeral.read text = .error p ∧ valueOf text = .error p := by
  have hdigits : Text.isDigitText text = true := by
    by_contra hother
    exact h fun hdigits => absurd hdigits hother
  rw [valueOf_of_isDigitText hdigits]
  cases hread : Numeral.read text with
  | ok n => exact absurd (fun _ => (Numeral.exists_read_iff_of_isDigitText hdigits).1 ⟨n, hread⟩) h
  | error p => exact ⟨p, rfl, rfl⟩

/-! ### Variables -/

/-- The search for a setting ends at the latest with the last part of the name. -/
theorem replaceAt_eq_of_length_le {fuel fuel' : Nat} (hparts : parts ≠ [])
    (hfuel : parts.length ≤ fuel) (hfuel' : parts.length ≤ fuel') :
    replaceAt v fuel parts t = replaceAt v fuel' parts t := by
  induction fuel generalizing fuel' parts t with
  | zero => exact absurd (List.length_eq_zero_iff.1 (Nat.le_zero.1 hfuel)) hparts
  | succ fuel ih =>
    cases fuel' with
    | zero => exact absurd (List.length_eq_zero_iff.1 (Nat.le_zero.1 hfuel')) hparts
    | succ fuel' =>
      simp only [replaceAt]
      cases searched t.keys with
      | error e => rfl
      | ok keys =>
        cases hkey : keyFor? keys parts with
        | none => simp only [hkey]
        | some key =>
          have hlength : 0 < (nameParts key).length :=
            List.length_pos_iff.2 (nameParts_ne_nil key)
          cases hrest : parts.drop (nameParts key).length with
          | nil => simp only [hkey, hrest]
          | cons part rest =>
            have hdrop := congrArg List.length hrest
            rw [List.length_drop] at hdrop
            have hinner : ∀ inner, replaceAt v fuel (part :: rest) inner =
                replaceAt v fuel' (part :: rest) inner := fun inner =>
              ih (List.cons_ne_nil _ _) (by omega) (by omega)
            simp only [hkey, hrest, hinner]

theorem override_of_isReadable {e : Text × Text} (hc : Addressable (.table t))
    (h : MayOverride e.1 → IsReadable e.2) :
    ∃ after, override (.table t) e = .ok (.table after) ∧ Addressable (.table after) := by
  cases hparts : pathOf? e.1 with
  | none => exact ⟨t, by rw [override, hparts], hc⟩
  | some parts =>
    obtain ⟨new, hnew⟩ := exists_valueOf_iff.2 (h (mayOverride_iff.2 ⟨parts, hparts⟩))
    obtain ⟨after, hafter, haddr, -⟩ := exists_replaceAt_clears (isTable_of_valueOf hnew) hc
      (pathOf?_ne_nil hparts) (Nat.le_refl _)
    refine ⟨after, ?_, haddr⟩
    rw [override_eq_of_valueOf hparts hnew, hafter]
    rfl

theorem override_of_not_isReadable {e : Text × Text} {p : Numeral.Problem}
    (hname : MayOverride e.1) (htext : ¬IsReadable e.2) (hread : Numeral.read e.2 = .error p)
    (config : Value) : override config e = .error (.numeral p) := by
  obtain ⟨parts, hparts⟩ := mayOverride_iff.1 hname
  obtain ⟨q, hq, hvalue⟩ := valueOf_of_not_isReadable htext
  obtain rfl := Except.error.inj (hread.symm.trans hq)
  simp only [override, hparts, hvalue]
  rfl

/-! ### All variables -/

theorem overrideAll_of_isReadable (hc : Addressable (.table t))
    (h : ∀ e ∈ environment, MayOverride e.1 → IsReadable e.2) :
    ∃ after, overrideAll environment (.table t) = .ok (.table after) ∧
      Addressable (.table after) := by
  induction environment generalizing t with
  | nil => exact ⟨t, rfl, hc⟩
  | cons e environment ih =>
    obtain ⟨he, hrest⟩ := List.forall_mem_cons.1 h
    obtain ⟨mid, hmid, haddr⟩ := override_of_isReadable hc he
    rw [overrideAll, List.foldlM_cons, hmid]
    exact ih haddr hrest

/-- Of the variables that may override a setting, `e` is the first that cannot be read, for the
reason `p`. -/
structure FirstUnreadable (environment : List (Text × Text)) (e : Text × Text)
    (p : Numeral.Problem) : Prop where
  first : ∃ front back, environment = front ++ e :: back ∧
    ∀ e ∈ front, MayOverride e.1 → IsReadable e.2
  name : MayOverride e.1
  text : ¬IsReadable e.2
  read : Numeral.read e.2 = .error p

theorem FirstUnreadable.overrideAll_eq {e : Text × Text} {p : Numeral.Problem}
    (h : FirstUnreadable environment e p) (hc : Addressable (.table t)) :
    overrideAll environment (.table t) = .error (.numeral p) := by
  obtain ⟨front, back, rfl, hfront⟩ := h.first
  obtain ⟨mid, hmid, -⟩ := overrideAll_of_isReadable hc hfront
  have hone := override_of_not_isReadable h.name h.text h.read (.table mid)
  rw [overrideAll] at hmid
  rw [overrideAll, List.foldlM_append, hmid]
  change (override (.table mid) e >>= fun config => back.foldlM override config) = _
  rw [hone]
  rfl

theorem exists_firstUnreadable (h : ¬∀ e ∈ environment, MayOverride e.1 → IsReadable e.2) :
    ∃ e p, FirstUnreadable environment e p := by
  have hsome : (environment.find? fun e => ¬(MayOverride e.1 → IsReadable e.2)).isSome := by
    rw [List.find?_isSome]
    simpa using h
  obtain ⟨e, he⟩ := Option.isSome_iff_exists.1 hsome
  obtain ⟨hstop, front, back, heq, hfront⟩ := List.find?_eq_some_iff_append.1 he
  obtain ⟨hname, htext⟩ : MayOverride e.1 ∧ ¬IsReadable e.2 := by simpa using hstop
  obtain ⟨p, hp, -⟩ := valueOf_of_not_isReadable htext
  refine ⟨e, p, ⟨front, back, heq, fun d hd => ?_⟩, hname, htext, hp⟩
  have hgoes := hfront d hd
  rwa [Bool.not_eq_true', decide_eq_false_iff_not, not_not] at hgoes

/-- The variables override the defaults exactly if each of them that may override a setting can be
read. Otherwise the first that cannot is the problem, whether a setting has its name or not. For
none of them the search needs more steps than its name has parts. -/
theorem overrideAll_defaults_iff (environment : List (Text × Text)) :
    ((∃ sections, overrideAll environment (.table defaults) = .ok (.table sections)) ↔
      ∀ e ∈ environment, MayOverride e.1 → IsReadable e.2) ∧
    (∀ f, overrideAll environment (.table defaults) = .error f ↔
      ∃ e p, FirstUnreadable environment e p ∧ f = .numeral p ∧ f.kind = "ValueError") ∧
    ∀ name parts, pathOf? name = some parts → ∀ v t fuel, parts.length ≤ fuel →
      replaceAt v fuel parts t = replaceAt v parts.length parts t := by
  have hall : (∀ e ∈ environment, MayOverride e.1 → IsReadable e.2) →
      ∃ sections, overrideAll environment (.table defaults) = .ok (.table sections) := by
    intro h
    obtain ⟨sections, hsections, -⟩ := overrideAll_of_isReadable addressable_defaults h
    exact ⟨sections, hsections⟩
  refine ⟨⟨?_, hall⟩, fun f => ⟨fun hf => ?_, ?_⟩, ?_⟩
  · rintro ⟨sections, hsections⟩
    by_contra hnot
    obtain ⟨e, p, hfirst⟩ := exists_firstUnreadable hnot
    rw [hfirst.overrideAll_eq addressable_defaults] at hsections
    cases hsections
  · have hnot : ¬∀ e ∈ environment, MayOverride e.1 → IsReadable e.2 := by
      intro h
      obtain ⟨sections, hsections⟩ := hall h
      rw [hf] at hsections
      cases hsections
    obtain ⟨e, p, hfirst⟩ := exists_firstUnreadable hnot
    rw [hfirst.overrideAll_eq addressable_defaults] at hf
    cases hf
    exact ⟨e, p, hfirst, rfl, Numeral.kind_of_read_eq_error hfirst.read⟩
  · rintro ⟨e, p, hfirst, rfl, -⟩
    exact hfirst.overrideAll_eq addressable_defaults
  · intro name parts hparts v t fuel hfuel
    exact replaceAt_eq_of_length_le (pathOf?_ne_nil hparts) hfuel (Nat.le_refl _)

/-- No setting has the name of this variable. -/
example : overrideAll [("DEFEVENTS_NOPE", "²")] (.table defaults) =
    .error (.numeral (.malformed "²")) := by rfl

end ChangeFeed.Config
