import ChangeFeed.Json.Reader
import ChangeFeed.Proofs.Text.Scan

/-!
# Why a text is refused

A text that is no JSON is refused for a fault, and one that is JSON for one of two reasons: too many
containers inside each other, or a whole number of too many digits (`read_eq_error_cases`). `Scans`
is the invariant of the scanners: what they leave over is the end of the text, and a number that
stops them stands in the text.
-/

namespace ChangeFeed.Json

variable {α β : Type} {t u : Text} {x : Except Stuck (α × Text)}

/-- A run of so many digits, which are too many, stands in the text. -/
def HasLongRun (t : Text) (n : Nat) : Prop :=
  Numeral.maxDigits < n ∧ ∃ ds, ds <:+: t ∧ ds.length = n ∧ ∀ c ∈ ds, Text.isAsciiDigit c = true

/-- What scanning a text comes to: what is left over is the end of the text, and if it was stopped
by a number, then by a long run of digits. -/
def Scans (t : Text) : Except Stuck (α × Text) → Prop
  | .ok r => r.2 <:+ t
  | .error (.number p) => ∃ n, p = .tooLong n ∧ HasLongRun t n
  | .error _ => True

theorem Scans.of_isSuffix (h : Scans u x) (hu : u <:+ t) : Scans t x := by
  cases x with
  | ok r => exact h.trans hu
  | error e =>
    cases e with
    | fault f rest => trivial
    | tooDeep c => trivial
    | number p =>
      obtain ⟨n, hp, hn, ds, hds, hrest⟩ := h
      exact ⟨n, hp, hn, ds, hds.trans hu.isInfix, hrest⟩

theorem Scans.map (h : Scans t x) {f : α × Text → β × Text} (hf : ∀ r, (f r).2 = r.2) :
    Scans t (x.map f) := by
  cases x with
  | ok r =>
    change (f r).2 <:+ t
    rw [hf]
    exact h
  | error e =>
    cases e with
    | fault f rest => trivial
    | tooDeep c => trivial
    | number p => exact h

theorem Scans.isSuffix {r : α × Text} (h : Scans t x) (hx : x = .ok r) : r.2 <:+ t := by
  subst hx
  exact h

theorem Scans.error {s : Stuck} (h : Scans t x) (hx : x = .error s) :
    Scans t (.error s : Except Stuck (β × Text)) := by
  subst hx
  cases s <;> exact h

theorem skip_isSuffix (t : Text) : skip t <:+ t := List.dropWhile_suffix isSpace

theorem isSuffix_of_skip_eq_cons {c : Char} {v : Text} (h : skip u = c :: v) : v <:+ u :=
  (List.suffix_cons c v).trans (h ▸ skip_isSuffix u)

/-! ### Strings -/

theorem Scans.consCode {x : Except Stuck (List Nat × Text)} (h : Scans t x) (n : Nat) :
    Scans t (consCode n x) := h.map fun _ => rfl

theorem scans_scanCodes (opening t : Text) : Scans t (scanCodes opening t) := by
  fun_induction scanCodes opening t with
  | case1 => trivial
  | case2 => exact List.suffix_cons _ _
  | case3 => trivial
  | case4 h₁ h₂ h₃ h₄ e r n _ _ ih =>
    exact (ih.consCode n).of_isSuffix (List.suffix_append ['\\', 'u', h₁, h₂, h₃, h₄] (e :: r))
  | case5 => trivial
  | case6 => trivial
  | case7 x u _ ch _ _ ih =>
    exact (ih.consCode ch.toNat).of_isSuffix (List.suffix_append ['\\', x] u)
  | case8 => trivial
  | case9 => trivial
  | case10 c t _ _ _ ih => exact (ih.consCode c.toNat).of_isSuffix (List.suffix_cons c t)

theorem scans_scanString (opening t : Text) : Scans t (scanString opening t) :=
  (scans_scanCodes opening t).map fun _ => rfl

/-! ### Numbers -/

theorem scanWhole?_spec {ds rest : Text} (h : scanWhole? t = some (ds, rest)) :
    t = ds ++ rest ∧ ∀ c ∈ ds, Text.isAsciiDigit c = true := by
  cases t with
  | nil => cases h
  | cons c t =>
    rw [scanWhole?] at h
    by_cases hc : c = '0'
    · rw [if_pos hc] at h
      cases h
      exact ⟨by rw [hc]; rfl, List.forall_mem_singleton.2 rfl⟩
    · rw [if_neg hc] at h
      by_cases hd : Text.isAsciiDigit c = true
      · rw [if_pos hd] at h
        obtain ⟨heq, hall, -⟩ := Text.span_eq_iff.1 (Option.some.inj h)
        exact ⟨heq, hall⟩
      · rw [if_neg hd] at h
        cases h

theorem isSuffix_of_span {p : Char → Bool} {ds rest : Text} (h : t.span p = (ds, rest)) :
    rest <:+ t := by
  obtain ⟨rfl, -⟩ := Text.span_eq_iff.1 h
  exact List.suffix_append ds rest

theorem scanFraction?_isSuffix {r : Text × Text} (h : scanFraction? t = some r) : r.2 <:+ t := by
  unfold scanFraction? at h
  split at h
  · next t =>
    split at h
    · cases h
    · cases h
      exact (isSuffix_of_span rfl).trans (List.suffix_cons _ _)
  · cases h

theorem scanExponent?_isSuffix {r : Bool × Text × Text} (h : scanExponent? t = some r) :
    r.2.2 <:+ t := by
  unfold scanExponent? at h
  split at h
  · next e t =>
    split at h
    · split at h
      next negative u hsign =>
      have hu : u <:+ t := by
        split at hsign <;> cases hsign
        · exact List.suffix_cons _ _
        · exact List.suffix_cons _ _
        · exact List.suffix_rfl
      split at h
      · cases h
      · next hspan =>
        cases h
        exact ((isSuffix_of_span hspan).trans hu).trans (List.suffix_cons e t)
    · cases h
  · cases h

theorem getD_isSuffix {γ : Type} {o : Option γ} {rest : γ → Text}
    (h : ∀ r, o = some r → rest r <:+ t) : (o.map rest).getD t <:+ t := by
  cases o with
  | none => exact List.suffix_rfl
  | some r => exact h r rfl

theorem isSuffix_of_sign (h : t = '-' :: u ∨ t = u) : u <:+ t := by
  rcases h with rfl | rfl
  · exact List.suffix_cons _ _
  · exact List.suffix_rfl

theorem scans_scanNumber (t : Text) : Scans t (scanNumber t) := by
  have hrest (v : Text) : ((scanExponent? (((scanFraction? v).map Prod.snd).getD v)).map
      fun e => e.2.2).getD (((scanFraction? v).map Prod.snd).getD v) <:+ v :=
    (getD_isSuffix fun _ => scanExponent?_isSuffix).trans
      (getD_isSuffix fun _ => scanFraction?_isSuffix)
  fun_cases scanNumber t with
  | case1 => trivial
  | case2 negative u hu whole v hwhole fraction w exponent _ p hp =>
    have hsign : t = '-' :: u ∨ t = u := by split at hu <;> cases hu <;> simp
    obtain ⟨rfl, hdigits⟩ := scanWhole?_spec hwhole
    unfold Numeral.ofDecimals? at hp
    split at hp
    · next hlong =>
      cases hp
      exact ⟨_, rfl, hlong, whole,
        (List.prefix_append whole v).isInfix.trans (isSuffix_of_sign hsign).isInfix, rfl, hdigits⟩
    · cases hp
  | case3 negative u hu whole v hwhole | case4 negative u hu whole v hwhole =>
    have hsign : t = '-' :: u ∨ t = u := by split at hu <;> cases hu <;> simp
    obtain ⟨rfl, -⟩ := scanWhole?_spec hwhole
    exact (hrest v).trans ((List.suffix_append whole v).trans (isSuffix_of_sign hsign))

/-! ### Values -/

theorem scanNamed?_isSuffix {r : Value × Text} (h : scanNamed? t = some r) : r.2 <:+ t := by
  obtain ⟨n, -, hn⟩ := List.exists_of_findSome?_eq_some h
  obtain ⟨rest, hrest, rfl⟩ := Option.map_eq_some_iff.1 hn
  rw [Text.rest?_eq_some_iff.1 hrest]
  exact List.suffix_append _ _

/-- What scanning a value, elements or entries comes to with so much fuel. -/
structure ScansAll (fuel : Nat) : Prop where
  value : ∀ depth t, Scans t (scanValue depth fuel t)
  elements : ∀ depth t, Scans t (scanElements depth fuel t)
  entries : ∀ depth before t, Scans t (scanEntries depth fuel before t)

theorem ScansAll.value_succ {fuel : Nat} (h : ScansAll fuel) (depth : Nat) (t : Text) :
    Scans t (scanValue depth (fuel + 1) t) := by
  rw [scanValue.eq_def]
  cases t with
  | nil => trivial
  | cons c u =>
    have hu : u <:+ c :: u := List.suffix_cons c u
    simp only
    split
    · exact ((scans_scanString _ u).of_isSuffix hu).map fun _ => rfl
    split
    · split
      · trivial
      · next v hv => exact (isSuffix_of_skip_eq_cons hv).trans hu
      · exact ((h.entries _ [] _).of_isSuffix ((skip_isSuffix u).trans hu)).map fun _ => rfl
    split
    · split
      · trivial
      · next v hv => exact (isSuffix_of_skip_eq_cons hv).trans hu
      · exact ((h.elements _ _).of_isSuffix ((skip_isSuffix u).trans hu)).map fun _ => rfl
    split
    · next r hr => exact scanNamed?_isSuffix hr
    · exact scans_scanNumber _

theorem ScansAll.elements_succ {fuel : Nat} (h : ScansAll fuel) (depth : Nat) (t : Text) :
    Scans t (scanElements depth (fuel + 1) t) := by
  have hvalue := h.value depth t
  rw [scanElements]
  split
  · next s hs => exact hvalue.error hs
  · next v u hs =>
    have hu : u <:+ t := hvalue.isSuffix hs
    split
    · next w hw => exact (isSuffix_of_skip_eq_cons hw).trans hu
    · next w hw =>
      have hrest : skip w <:+ t :=
        (skip_isSuffix w).trans ((isSuffix_of_skip_eq_cons hw).trans hu)
      exact ((h.elements depth _).of_isSuffix hrest).map fun _ => rfl
    · trivial

theorem ScansAll.entries_succ {fuel : Nat} (h : ScansAll fuel) (depth : Nat) (before : Table)
    (t : Text) : Scans t (scanEntries depth (fuel + 1) before t) := by
  rw [scanEntries.eq_def]
  simp only
  split
  · next u =>
    have hkey := (scans_scanString ('"' :: u) u).of_isSuffix (List.suffix_cons '"' u)
    split
    · next s hs => exact hkey.error hs
    · next key v hs =>
      have hv : v <:+ '"' :: u := hkey.isSuffix hs
      split
      · next w hw =>
        have hw : skip w <:+ '"' :: u :=
          (skip_isSuffix w).trans ((isSuffix_of_skip_eq_cons hw).trans hv)
        have hvalue := (h.value depth (skip w)).of_isSuffix hw
        split
        · next s hs => exact hvalue.error hs
        · next value x hs =>
          have hx : x <:+ '"' :: u := hvalue.isSuffix hs
          split
          · next y hy => exact (isSuffix_of_skip_eq_cons hy).trans hx
          · next y hy =>
            have hrest : skip y <:+ '"' :: u :=
              (skip_isSuffix y).trans ((isSuffix_of_skip_eq_cons hy).trans hx)
            exact (h.entries depth _ _).of_isSuffix hrest
          · trivial
      · trivial
  · trivial

/-- By induction on the fuel, for elements and entries at the same time as for values. -/
theorem scansAll (fuel : Nat) : ScansAll fuel := by
  induction fuel with
  | zero => exact ⟨fun _ _ => trivial, fun _ _ => trivial, fun _ _ _ => trivial⟩
  | succ fuel ih => exact ⟨ih.value_succ, ih.elements_succ, ih.entries_succ⟩

theorem scanValue_nil (depth fuel : Nat) :
    scanValue depth (fuel + 1) [] = .error (.fault .value []) := by
  rw [scanValue.eq_def]

theorem read_nil (depth : Nat) : ∃ p, read depth [] = .error (.json p) := by
  have hdocument : scanDocument depth [] = .error (.fault .value []) := by
    have hskip : skip [] = [] := rfl
    rw [scanDocument, if_neg (by decide), hskip, scanValue_nil]
  rw [read, hdocument]
  exact ⟨_, rfl⟩

theorem read_eq_error_cases {depth : Nat} {f : Failure} (h : read depth t = .error f) :
    (∃ p, f = .json p) ∨ (∃ c, f = .tooDeep c) ∨
      ∃ n, f = .numeral (.tooLong n) ∧ HasLongRun t n := by
  have hvalue := ((scansAll (2 * t.length + 2)).value depth (skip t)).of_isSuffix
    (skip_isSuffix t)
  rw [read, scanDocument] at h
  split at h
  · cases h
    exact .inl ⟨_, rfl⟩
  split at h
  · next s hs =>
    cases h
    have hstuck : Scans t (.error s : Except Stuck (Value × Text)) := hvalue.error hs
    cases s with
    | fault f rest => exact .inl ⟨_, rfl⟩
    | tooDeep c => exact .inr (.inl ⟨c, rfl⟩)
    | number p =>
      obtain ⟨n, rfl, hn⟩ := hstuck
      exact .inr (.inr ⟨n, rfl, hn⟩)
  · split at h
    · cases h
    · cases h
      exact .inl ⟨_, rfl⟩

end ChangeFeed.Json
