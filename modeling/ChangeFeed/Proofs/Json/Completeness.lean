import ChangeFeed.Proofs.Json.Grammar
import ChangeFeed.Proofs.Outcome

/-!
# JSON is read

A text of JSON is read as the value that it stands for, in front of whatever may follow it, unless a
whole number in it has too many digits or too many containers are open at the same time. Then
reading stops for one of these two reasons, whatever the limits were under which the text was
written (`Spells.read_eq`, `Spells.read_or`).

`ScansTo` says what reading a text comes to, be it a value or not. What a container comes to follows
from what its elements come to, one after the other (`scanElements_join`, `scanEntries_join`), so
that both results are inductions on what the text is made of.
-/

namespace ChangeFeed

namespace Json

variable {digits depth fuel : Nat} {rest t : Text} {v : Value}

/-! ### Numbers -/

theorem scanFraction?_of_head? (h : t.head? ≠ some '.') : scanFraction? t = none := by
  rw [scanFraction?.eq_def]
  split
  · exact absurd rfl h
  · rfl

theorem IsDigits.span_append {ds : Text} (h : IsDigits ds)
    (hrest : ∀ c ∈ rest.head?, Text.isAsciiDigit c = false) :
    (ds ++ rest).span Text.isAsciiDigit = (ds, rest) :=
  Text.span_eq_iff.2 ⟨rfl, h.2, hrest⟩

theorem IsDigits.exists_eq_cons {ds : Text} (h : IsDigits ds) :
    ∃ d t, ds = d :: t ∧ Text.isAsciiDigit d = true := by
  obtain ⟨d, t, rfl⟩ := List.exists_cons_of_ne_nil h.1
  exact ⟨d, t, rfl, h.2 d List.mem_cons_self⟩

theorem ne_of_isAsciiDigit {c x : Char} (hc : Text.isAsciiDigit c = true)
    (hx : Text.isAsciiDigit x = false) : c ≠ x := by
  rintro rfl
  rw [hc] at hx
  cases hx

theorem scanExponent?_text (e : Exponent) (h : Stops rest) :
    scanExponent? (e.text ++ rest) = some (decide (e.sign = ['-']), e.digits, rest) := by
  have hspan := e.isDigits.span_append fun c hc => (h c hc).1
  obtain ⟨d, ds, hds, hd⟩ := e.isDigits.exists_eq_cons
  rw [hds] at hspan
  rw [Exponent.text, hds, List.cons_append]
  rcases e.isSign with hs | hs | hs
  · -- a digit is no sign
    have hminus : ∀ t, d :: ds ++ rest = '-' :: t → False := fun t heq =>
      absurd (List.cons.inj heq).1 (ne_of_isAsciiDigit hd (by decide))
    have hplus : ∀ t, d :: ds ++ rest = '+' :: t → False := fun t heq =>
      absurd (List.cons.inj heq).1 (ne_of_isAsciiDigit hd (by decide))
    rw [hs, List.nil_append, scanExponent?.eq_3 _ _ hminus hplus, if_pos e.isLetter, hspan]
    rfl
  · rw [hs, List.append_assoc, List.singleton_append, scanExponent?, if_pos e.isLetter, hspan]
    rfl
  · rw [hs, List.append_assoc, List.singleton_append, scanExponent?, if_pos e.isLetter, hspan]
    rfl

theorem scanExponent?_exponentText (n : Number) (h : Stops rest) :
    scanExponent? (n.exponentText ++ rest) =
      n.exponent.map fun e => (decide (e.sign = ['-']), e.digits, rest) := by
  rw [Number.exponentText]
  cases n.exponent with
  | none => exact scanExponent?_of_stops h
  | some e => exact scanExponent?_text e h

theorem head?_exponentText (n : Number) (h : Stops rest) :
    ∀ c ∈ (n.exponentText ++ rest).head?, Text.isAsciiDigit c = false ∧ c ≠ '.' := by
  rw [Number.exponentText]
  cases n.exponent with
  | none => exact fun c hc => ⟨(h c hc).1, (h c hc).2.1⟩
  | some e =>
    intro c hc
    obtain rfl : e.letter = c := Option.some.inj hc
    rcases e.isLetter with he | he
    · rw [he]; decide
    · rw [he]; decide

theorem scanFraction?_fractionText (n : Number) (h : Stops rest) :
    scanFraction? (n.fractionText ++ (n.exponentText ++ rest)) =
      n.fraction.map fun ds => (ds, n.exponentText ++ rest) := by
  have hhead := head?_exponentText n h
  rw [Number.fractionText]
  cases hf : n.fraction with
  | none => exact scanFraction?_of_head? fun hc => (hhead '.' hc).2 rfl
  | some ds =>
    have hds := n.isFraction ds hf
    have hspan := hds.span_append fun c hc => (hhead c hc).1
    obtain ⟨d, ds, rfl, hd⟩ := hds.exists_eq_cons
    rw [Option.elim_some, List.cons_append, scanFraction?, hspan]
    rfl

theorem head?_fractionText (n : Number) (h : Stops rest) :
    ∀ c ∈ (n.fractionText ++ (n.exponentText ++ rest)).head?, Text.isAsciiDigit c = false := by
  rw [Number.fractionText]
  cases n.fraction with
  | none => exact fun c hc => (head?_exponentText n h c hc).1
  | some ds =>
    intro c hc
    obtain rfl : '.' = c := Option.some.inj hc
    decide

theorem scanWhole?_unsignedText (n : Number) (h : Stops rest) :
    scanWhole? (n.unsignedText ++ rest) =
      some (n.whole, n.fractionText ++ (n.exponentText ++ rest)) := by
  have htext : n.unsignedText ++ rest =
      n.whole ++ (n.fractionText ++ (n.exponentText ++ rest)) := by
    simp only [Number.unsignedText, List.append_assoc]
  rw [htext]
  rcases n.isWhole with hw | ⟨hw, hzero⟩
  · rw [hw]
    rfl
  · have hspan := hw.span_append (head?_fractionText n h)
    obtain ⟨d, ds, hds, hd⟩ := hw.exists_eq_cons
    rw [hds] at hzero hspan ⊢
    rw [List.cons_append] at hspan ⊢
    rw [scanWhole?, if_neg fun heq => hzero (by rw [heq]; rfl), if_pos hd, hspan]

theorem Number.isAsciiDigit_of_mem_whole (n : Number) :
    ∀ c ∈ n.whole, Text.isAsciiDigit c = true := by
  rcases n.isWhole with h | ⟨h, -⟩
  · rw [h]
    exact List.forall_mem_singleton.2 (by decide)
  · exact h.2

theorem decimalValue?_of_isAsciiDigit {c : Char} (h : Text.isAsciiDigit c = true) :
    Text.decimalValue? c = some (c.toNat - 48) := by
  refine Text.decimalValue?_of_isDigit ?_
  simpa [Char.isDigit, Text.isAsciiDigit, Char.le_def, UInt32.le_iff_toNat_le] using h

theorem ofDecimals?_of_isAsciiDigit {ds : Text} (h : ∀ c ∈ ds, Text.isAsciiDigit c = true) :
    Numeral.ofDecimals? ds =
      if Numeral.maxDigits < ds.length then .error (.tooLong ds.length)
      else .ok (digitsValue ds) := by
  have hvalues : ds.filterMap Text.decimalValue? = ds.map fun c => c.toNat - 48 := by
    rw [← List.filterMap_eq_map']
    exact List.filterMap_congr fun c hc => decimalValue?_of_isAsciiDigit (h c hc)
  rw [Numeral.ofDecimals?, hvalues]
  rfl

/-- What a number comes to, for the reader. -/
def Number.outcome (n : Number) : Except Stuck Value :=
  if n.isInteger = true ∧ Numeral.maxDigits < n.whole.length then
    .error (.number (.tooLong n.whole.length))
  else .ok n.value

theorem Number.exists_unsignedText_eq_cons (n : Number) :
    ∃ d t, n.unsignedText = d :: t ∧ Text.isAsciiDigit d = true := by
  have hne : n.whole ≠ [] := by
    rcases n.isWhole with h | ⟨h, -⟩
    · rw [h]
      exact List.cons_ne_nil _ _
    · exact h.1
  obtain ⟨d, ds, hds⟩ := List.exists_cons_of_ne_nil hne
  refine ⟨d, ds ++ (n.fractionText ++ n.exponentText), ?_, ?_⟩
  · rw [Number.unsignedText, hds]
    rfl
  · exact n.isAsciiDigit_of_mem_whole d (hds ▸ List.mem_cons_self)

theorem Number.behind_fraction (n : Number) (u : Text) :
    ((n.fraction.map fun ds => (ds, u)).map Prod.snd).getD (n.fractionText ++ u) = u := by
  rw [Number.fractionText]
  cases n.fraction <;> rfl

theorem scanNumber_text (n : Number) (h : Stops rest) :
    scanNumber (n.text ++ rest) = n.outcome.map fun v => (v, rest) := by
  have hwhole := scanWhole?_unsignedText n h
  have hfraction := scanFraction?_fractionText n h
  have hbehind := n.behind_fraction (n.exponentText ++ rest)
  have hexponent := scanExponent?_exponentText n h
  have hdigits := ofDecimals?_of_isAsciiDigit n.isAsciiDigit_of_mem_whole
  obtain ⟨d, ds, hds, hd⟩ := n.exists_unsignedText_eq_cons
  -- the digits do not start with a minus sign
  have hminus : ∀ u, n.unsignedText ++ rest ≠ '-' :: u := fun u hu => by
    rw [hds] at hu
    exact ne_of_isAsciiDigit hd (by decide) (List.cons.inj hu).1
  -- the outcome stays folded while the text is taken apart
  generalize hr : (n.outcome.map fun v => (v, rest)) = r
  rw [Number.text]
  cases hn : n.negative
  case' true => rw [if_pos rfl, List.cons_append, scanNumber.eq_def]
  case' false => rw [if_neg Bool.false_ne_true, scanNumber.eq_def]
  all_goals
    simp only [hwhole, hfraction, hbehind, hexponent, hdigits, Option.isNone_map]
    rw [← hr]
    unfold Number.outcome Number.value Number.isInteger Number.exponentText
    rw [hn]
    cases n.exponent with
    | none =>
      cases n.fraction with
      | none => by_cases hlong : Numeral.maxDigits < n.whole.length <;> simp [hlong, Except.map]
      | some ds => simp [Except.map]
    | some e =>
      cases n.fraction with
      | none => by_cases hs : e.sign = ['-'] <;> simp [hs, Except.map, Exponent.power]
      | some ds => by_cases hs : e.sign = ['-'] <;> simp [hs, Except.map, Exponent.power]

/-! ### Strings -/

theorem scanCodes_of_spells {ns : List Nat} (h : SpellsCodes t ns) (o rest : Text) :
    scanCodes o (t ++ '"' :: rest) = .ok (ns, rest) := by
  induction h with
  | nil =>
    rw [List.nil_append, scanCodes.eq_def]
    rfl
  | plain quote backslash control _ ih =>
    rw [List.cons_append, scanCodes_of_plain quote backslash control, ih]
    rfl
  | @short x c t ns escape _ ih =>
    have hx : x ≠ 'u' := by
      rintro rfl
      exact absurd escape (by simp [shortEscape?])
    rw [List.cons_append, List.cons_append, scanCodes_shortEscape hx escape, ih]
    rfl
  | @code h₁ h₂ h₃ h₄ n t ns escape _ ih =>
    obtain ⟨e, r, her⟩ := List.exists_cons_of_ne_nil (l := t ++ '"' :: rest) (by simp)
    rw [her] at ih
    simp only [List.cons_append, her]
    rw [scanCodes.eq_def]
    simp [escape, ih, consCode, Except.map]

theorem scanString_of_spells {ns : List Nat} (h : SpellsCodes t ns) (o rest : Text) :
    scanString o (t ++ '"' :: rest) = .ok (pointsOfCodes ns, rest) := by
  rw [scanString, scanCodes_of_spells h]
  rfl

/-! ### What a text comes to -/

/-- Where a value may start: not with space, nor with what ends a list. -/
def Starts (t : Text) : Prop := ∃ c u, t = c :: u ∧ isSpace c = false ∧ c ≠ ']' ∧ c ≠ '\ufeff'

/-- What reading a text comes to, in front of whatever may follow it. -/
structure ScansTo (depth : Nat) (t : Text) (r : Except Stuck Value) : Prop where
  starts : Starts t
  scan : ∀ fuel rest, 2 * t.length ≤ fuel → Stops rest →
    scanValue depth fuel (t ++ rest) = r.map fun v => (v, rest)

theorem Number.starts (n : Number) : Starts n.text := by
  obtain ⟨d, ds, hds, hd⟩ := n.exists_unsignedText_eq_cons
  rw [Number.text]
  split
  · exact ⟨_, _, rfl, by decide⟩
  · have hne : ∀ x, Text.isAsciiDigit x = false → d ≠ x := fun x => ne_of_isAsciiDigit hd
    refine ⟨d, ds, hds, ?_, hne _ (by decide), hne _ (by decide)⟩
    simp [isSpace, hne ' ' (by decide), hne '\t' (by decide), hne '\n' (by decide),
      hne '\r' (by decide)]

theorem Spells.starts (h : Spells digits depth t v) : Starts t := by
  cases h with
  | @named _ n hn =>
    have hnames : ∀ n ∈ Json.named, (n.1.toList.head?.any fun c =>
        decide (isSpace c = false ∧ c ≠ ']' ∧ c ≠ '\ufeff')) = true := by decide
    obtain ⟨c, hc, hstart⟩ := (Option.any_eq_true _ _).1 (hnames n hn)
    obtain ⟨u, hu⟩ := List.head?_eq_some_iff.1 hc
    exact ⟨c, u, hu, of_decide_eq_true hstart⟩
  | number n => exact n.starts
  | text => exact ⟨_, _, rfl, by decide⟩
  | emptyList => exact ⟨_, _, rfl, by decide⟩
  | list => exact ⟨_, _, rfl, by decide⟩
  | emptyTable => exact ⟨_, _, rfl, by decide⟩
  | table => exact ⟨_, _, rfl, by decide⟩

theorem Starts.skip_append (h : Starts t) (u : Text) : skip (t ++ u) = t ++ u := by
  obtain ⟨c, w, rfl, hc, -⟩ := h
  exact skip_of_head? rfl hc

theorem ScansTo.of_succ {r : Except Stuck Value} (hs : Starts t)
    (h : ∀ fuel rest, 2 * t.length ≤ fuel + 1 → Stops rest →
      scanValue depth (fuel + 1) (t ++ rest) = r.map fun v => (v, rest)) : ScansTo depth t r := by
  refine ⟨hs, fun fuel rest hfuel hrest => ?_⟩
  cases fuel with
  | zero =>
    obtain ⟨c, u, rfl, -⟩ := hs
    exact absurd hfuel (by simp)
  | succ fuel => exact h fuel rest hfuel hrest

/-! ### Values outside of containers -/

theorem scanNamed?_number (n : Number) (rest : Text) : scanNamed? (n.text ++ rest) = none := by
  obtain ⟨d, ds, hds, hd⟩ := n.exists_unsignedText_eq_cons
  have hne : ∀ x, Text.isAsciiDigit x = false → x ≠ d := fun x hx => (ne_of_isAsciiDigit hd hx).symm
  rw [Number.text, hds]
  cases n.negative with
  | true => simp [scanNamed?, named, Text.rest?, hne 'I' (by decide)]
  | false =>
    simp [scanNamed?, named, Text.rest?, hne 'n' (by decide), hne 't' (by decide),
      hne 'f' (by decide), hne 'N' (by decide), hne 'I' (by decide), hne '-' (by decide)]

theorem scansTo_number (n : Number) (depth : Nat) : ScansTo depth n.text n.outcome := by
  refine .of_succ n.starts fun fuel rest _ hrest => ?_
  have hnamed := scanNamed?_number n rest
  have hnumber := scanNumber_text n hrest
  obtain ⟨d, ds, hds, hd⟩ := n.exists_unsignedText_eq_cons
  obtain ⟨c, u, hc, hstart⟩ : ∃ c u, n.text = c :: u ∧ c ≠ '"' ∧ c ≠ '\x7b' ∧ c ≠ '[' := by
    rw [Number.text, hds]
    cases n.negative with
    | true => exact ⟨'-', d :: ds, rfl, by decide⟩
    | false =>
      exact ⟨d, ds, rfl, ne_of_isAsciiDigit hd (by decide), ne_of_isAsciiDigit hd (by decide),
        ne_of_isAsciiDigit hd (by decide)⟩
  rw [hc, List.cons_append] at hnamed hnumber ⊢
  rw [scanValue.eq_def]
  simp [hstart, hnamed, hnumber]

theorem scansTo_named {n : String × Value} (hn : n ∈ named) (depth : Nat) :
    ScansTo depth n.1.toList (.ok n.2) := by
  have hspells : Spells 0 0 n.1.toList n.2 := .named hn
  refine .of_succ hspells.starts fun fuel rest _ _ => ?_
  simp only [named, List.mem_cons, List.not_mem_nil, or_false] at hn
  rcases hn with rfl | rfl | rfl | rfl | rfl | rfl <;>
    exact scanValue_named (by decide) (by decide) (by decide) rfl

theorem scansTo_text {ns : List Nat} (h : SpellsCodes t ns) (depth : Nat) :
    ScansTo depth ('"' :: (t ++ ['"'])) (.ok (.ofPoints (pointsOfCodes ns))) := by
  refine .of_succ ⟨_, _, rfl, by decide⟩ fun fuel rest _ _ => ?_
  have hscan := scanString_of_spells h ('"' :: (t ++ '"' :: rest)) rest
  rw [scanValue.eq_def]
  simp only [List.cons_append, List.append_assoc, List.nil_append, if_true, hscan]
  rfl

/-! ### Containers -/

theorem Gap.skip_append (g : Gap) (u : Text) : skip (g.text ++ u) = skip u :=
  Json.skip_append g.spaced u

theorem Gap.stops (g : Gap) {c : Char} (hc : c = ',' ∨ c = ']' ∨ c = '\x7d') :
    Stops (g.text ++ c :: rest) := by
  refine stops_append g.spaced (stops_cons ?_)
  rcases hc with rfl | rfl | rfl <;> decide

namespace Element

variable {e : Element} {r : Except Stuck Value} {c : Char}

theorem skip_padded (hs : Starts e.text) (u : Text) :
    skip (e.padded ++ u) = e.text ++ (e.after.text ++ u) := by
  rw [padded, List.append_assoc, e.before.skip_append, List.append_assoc, hs.skip_append]

theorem scan (h : ScansTo depth e.text r) (hc : c = ',' ∨ c = ']' ∨ c = '\x7d')
    (hfuel : 2 * e.padded.length ≤ fuel) (rest : Text) :
    scanValue depth fuel (skip (e.padded ++ c :: rest)) =
      r.map fun v => (v, e.after.text ++ c :: rest) := by
  rw [skip_padded h.starts]
  refine h.scan _ _ ?_ (e.after.stops hc)
  rw [padded, List.length_append, List.length_append] at hfuel
  omega

end Element

theorem skip_cons {c : Char} (hc : isSpace c = false) (u : Text) : skip (c :: u) = c :: u :=
  skip_of_head? rfl hc

theorem join_comma (t u : Text) (ts : List Text) :
    Text.join "," (t :: u :: ts) = t ++ ',' :: Text.join "," (u :: ts) := by
  rw [Text.join_cons, if_neg (List.cons_ne_nil u ts)]
  rfl

theorem join_one (t : Text) : Text.join "," [t] = t := by
  rw [Text.join_cons, if_pos rfl, List.append_nil]

theorem scanElements_join {f : Element → Except Stuck Value} {es : List Element} (hne : es ≠ [])
    (h : ∀ e ∈ es, ScansTo depth e.text (f e))
    (hfuel : 2 * (Text.join "," (es.map Element.padded)).length + 1 ≤ fuel) (rest : Text) :
    scanElements depth fuel (skip (Text.join "," (es.map Element.padded) ++ ']' :: rest)) =
      (es.mapM f).map fun vs => (vs, rest) := by
  induction es generalizing fuel with
  | nil => exact absurd rfl hne
  | cons e es ih =>
    obtain ⟨he, hes⟩ := List.forall_mem_cons.1 h
    obtain ⟨fuel, rfl⟩ : ∃ n, fuel = n + 1 := ⟨fuel - 1, by omega⟩
    cases es with
    | nil =>
      rw [List.map_singleton, join_one] at hfuel ⊢
      rw [scanElements, List.mapM_cons, Element.scan he (.inr (.inl rfl)) (by omega)]
      cases f e with
      | error s => rfl
      | ok v =>
        simp only [Except.map, e.after.skip_append, skip_cons (c := ']') (by decide)]
        rfl
    | cons e' es =>
      rw [List.map_cons, List.map_cons, join_comma] at hfuel ⊢
      rw [List.length_append, List.length_cons] at hfuel
      have hbound : 2 * (Text.join "," ((e' :: es).map Element.padded)).length + 1 ≤ fuel := by
        rw [List.map_cons]
        omega
      have hlater := ih (List.cons_ne_nil e' es) hes hbound
      rw [List.map_cons] at hlater
      rw [List.append_assoc, List.cons_append, scanElements, List.mapM_cons,
        Element.scan he (.inl rfl) (by omega)]
      cases f e with
      | error s => rfl
      | ok v =>
        simp only [Except.map, e.after.skip_append, skip_cons (c := ',') (by decide), hlater]
        cases (e' :: es).mapM f <;> rfl

namespace Entry

variable {c : Char} {e : Entry} {r : Except Stuck Value}

/-- The key of an entry. -/
def key (e : Entry) : Key := .ofPoints (pointsOfCodes e.codes)

theorem skip_padded (u : Text) :
    skip (e.padded ++ u) =
      '"' :: (e.keyText ++ '"' :: (e.after.text ++ ':' :: (e.element.padded ++ u))) := by
  rw [padded, List.append_assoc, e.before.skip_append]
  simp only [List.cons_append, List.append_assoc]
  exact skip_cons (by decide) _

theorem length_element_le : e.element.padded.length + 3 ≤ e.padded.length := by
  simp only [padded, List.length_append, List.length_cons]
  omega

theorem scan (h : ScansTo depth e.element.text r) (hc : c = ',' ∨ c = '\x7d')
    (hfuel : 2 * e.padded.length ≤ fuel) (before : Table) (rest : Text) :
    scanEntries depth (fuel + 1) before (skip (e.padded ++ c :: rest)) =
      r.bind fun v =>
        if c = ',' then scanEntries depth fuel (Table.set e.key v before) (skip rest)
        else .ok (Table.set e.key v before, rest) := by
  have hlen := e.length_element_le
  have hcolon := skip_cons (c := ':') (by decide)
  have hbound : 2 * e.element.padded.length ≤ fuel := by omega
  have hvalue := Element.scan h (hc.imp_right .inr) hbound rest
  rw [skip_padded, scanEntries]
  simp only [scanString_of_spells e.spells, e.after.skip_append, hcolon, hvalue]
  cases r with
  | error s => rfl
  | ok v =>
    rcases hc with rfl | rfl
    · simp only [Except.map, e.element.after.skip_append, skip_cons (c := ',') (by decide)]
      rfl
    · simp only [Except.map, e.element.after.skip_append, skip_cons (c := '\x7d') (by decide)]
      rfl

end Entry

theorem scanEntries_join {f : Entry → Except Stuck Value} {es : List Entry} (hne : es ≠ [])
    (h : ∀ e ∈ es, ScansTo depth e.element.text (f e))
    (hfuel : 2 * (Text.join "," (es.map Entry.padded)).length + 1 ≤ fuel) (before : Table)
    (rest : Text) :
    scanEntries depth fuel before (skip (Text.join "," (es.map Entry.padded) ++ '\x7d' :: rest)) =
      (es.mapM fun e => (f e).map (e.key, ·)).map fun kvs =>
        (kvs.foldl (fun es kv => Table.set kv.1 kv.2 es) before, rest) := by
  induction es generalizing fuel before with
  | nil => exact absurd rfl hne
  | cons e es ih =>
    obtain ⟨he, hes⟩ := List.forall_mem_cons.1 h
    obtain ⟨fuel, rfl⟩ : ∃ n, fuel = n + 1 := ⟨fuel - 1, by omega⟩
    cases es with
    | nil =>
      rw [List.map_singleton, join_one] at hfuel ⊢
      rw [Entry.scan he (.inr rfl) (by omega), List.mapM_cons]
      cases f e <;> rfl
    | cons e' es =>
      rw [List.map_cons, List.map_cons, join_comma] at hfuel ⊢
      rw [List.length_append, List.length_cons] at hfuel
      have hbound : 2 * (Text.join "," ((e' :: es).map Entry.padded)).length + 1 ≤ fuel := by
        rw [List.map_cons]
        omega
      have hlater := ih (List.cons_ne_nil e' es) hes hbound
      rw [List.map_cons] at hlater
      rw [List.append_assoc, List.cons_append, Entry.scan he (.inl rfl) (by omega),
        List.mapM_cons]
      cases f e with
      | error s => rfl
      | ok v =>
        refine (hlater _).trans ?_
        cases (e' :: es).mapM fun e => (f e).map (e.key, ·) <;> rfl

theorem scansTo_list {f : Element → Except Stuck Value} {es : List Element} (hne : es ≠ [])
    (h : ∀ e ∈ es, ScansTo depth e.text (f e)) :
    ScansTo (depth + 1) ('[' :: (Text.join "," (es.map Element.padded) ++ [']']))
      ((es.mapM f).map .list) := by
  refine .of_succ ⟨_, _, rfl, by decide⟩ fun fuel rest hfuel _ => ?_
  simp only [List.length_cons, List.length_append, List.length_nil] at hfuel
  have hbound : 2 * (Text.join "," (es.map Element.padded)).length + 1 ≤ fuel := by omega
  have hscan := scanElements_join hne h hbound rest
  obtain ⟨c, hc, hbracket⟩ :
      ∃ c, (skip (Text.join "," (es.map Element.padded) ++ ']' :: rest)).head? = some c ∧
        c ≠ ']' := by
    obtain ⟨e, es, rfl⟩ := List.exists_cons_of_ne_nil hne
    have hstart := (h e List.mem_cons_self).starts
    rw [List.map_cons, Text.join_cons, List.append_assoc, Element.skip_padded hstart]
    obtain ⟨c, u, hu, -, hc, -⟩ := hstart
    exact ⟨c, by rw [hu]; rfl, hc⟩
  rw [List.cons_append, List.append_assoc, List.singleton_append,
    scanValue_bracket hc hbracket rfl, hscan]
  cases es.mapM f <;> rfl

theorem scansTo_table {f : Entry → Except Stuck Value} {es : List Entry} (hne : es ≠ [])
    (h : ∀ e ∈ es, ScansTo depth e.element.text (f e)) :
    ScansTo (depth + 1) ('\x7b' :: (Text.join "," (es.map Entry.padded) ++ ['\x7d']))
      ((es.mapM fun e => (f e).map (e.key, ·)).map fun kvs =>
        .table (kvs.foldl (fun es kv => Table.set kv.1 kv.2 es) [])) := by
  refine .of_succ ⟨_, _, rfl, by decide⟩ fun fuel rest hfuel _ => ?_
  simp only [List.length_cons, List.length_append, List.length_nil] at hfuel
  have hbound : 2 * (Text.join "," (es.map Entry.padded)).length + 1 ≤ fuel := by omega
  have hscan := scanEntries_join hne h hbound [] rest
  have hquote :
      (skip (Text.join "," (es.map Entry.padded) ++ '\x7d' :: rest)).head? = some '"' := by
    obtain ⟨e, es, rfl⟩ := List.exists_cons_of_ne_nil hne
    rw [List.map_cons, Text.join_cons, List.append_assoc, Entry.skip_padded]
    rfl
  rw [List.cons_append, List.append_assoc, List.singleton_append,
    scanValue_brace hquote rfl, hscan]
  cases es.mapM fun e => (f e).map (e.key, ·) <;> rfl

theorem scansTo_emptyList (g : Gap) (depth : Nat) :
    ScansTo (depth + 1) ('[' :: (g.text ++ [']'])) (.ok (.list [])) := by
  refine .of_succ ⟨_, _, rfl, by decide⟩ fun fuel rest _ _ => ?_
  have hskip : skip (g.text ++ ']' :: rest) = ']' :: rest := by
    rw [g.skip_append, skip_cons (by decide)]
  rw [scanValue.eq_def]
  simp [hskip, Except.map]

theorem scansTo_emptyTable (g : Gap) (depth : Nat) :
    ScansTo (depth + 1) ('\x7b' :: (g.text ++ ['\x7d'])) (.ok (.table [])) := by
  refine .of_succ ⟨_, _, rfl, by decide⟩ fun fuel rest _ _ => ?_
  have hskip : skip (g.text ++ '\x7d' :: rest) = '\x7d' :: rest := by
    rw [g.skip_append, skip_cons (by decide)]
  rw [scanValue.eq_def]
  simp [hskip, Except.map]

theorem scansTo_bracket_zero (u : Text) : ScansTo 0 ('[' :: u) (.error (.tooDeep .array)) := by
  refine .of_succ ⟨_, _, rfl, by decide⟩ fun fuel rest _ _ => ?_
  rw [scanValue.eq_def]
  rfl

theorem scansTo_brace_zero (u : Text) : ScansTo 0 ('\x7b' :: u) (.error (.tooDeep .object)) := by
  refine .of_succ ⟨_, _, rfl, by decide⟩ fun fuel rest _ _ => ?_
  rw [scanValue.eq_def]
  rfl

/-! ### Texts of JSON -/

theorem foldl_put (es : List Entry) (before : Table) :
    (es.map fun e => (e.key, e.element.value)).foldl (fun es kv => Table.set kv.1 kv.2 es) before =
      es.foldl Entry.put before :=
  List.foldl_map

/-- By induction on what the text is made of. -/
theorem Spells.scansTo (h : Spells Numeral.maxDigits depth t v) : ScansTo depth t (.ok v) := by
  induction h with
  | named hn => exact scansTo_named hn _
  | number n hn =>
    have hok : n.outcome = .ok n.value := if_neg fun hlong => (hn hlong.1).not_gt hlong.2
    exact hok ▸ scansTo_number n _
  | text h => exact scansTo_text h _
  | emptyList g => exact scansTo_emptyList g _
  | list hne _ ih =>
    have hscan := scansTo_list (f := fun e => .ok e.value) hne ih
    rwa [mapM_eq_ok_map fun _ _ => rfl] at hscan
  | emptyTable g => exact scansTo_emptyTable g _
  | @table _ es hne _ ih =>
    have hscan := scansTo_table (f := fun e => .ok e.element.value) hne ih
    have hmap := mapM_eq_ok_map (l := es) (g := fun e : Entry => (e.key, e.element.value))
      (f := fun e => Except.map (ε := Stuck) (e.key, ·) (.ok e.element.value)) fun _ _ => rfl
    rw [hmap] at hscan
    simp only [Except.map, foldl_put] at hscan
    exact hscan

/-- Whether a text could not be read because of the limits of the reader. -/
def Stuck.isLimit : Stuck → Bool
  | .number (.tooLong _) => true
  | .tooDeep _ => true
  | _ => false

/-- Reading comes to the value if the limits of the reader are kept, and else to one of them. By
induction on what the text is made of, whatever the limits are that it keeps. -/
theorem Spells.exists_scansTo (h : Spells digits depth t v) (limit : Nat) :
    ∃ r, ScansTo limit t r ∧
      (r = .ok v ∧ Spells Numeral.maxDigits limit t v ∨ ∃ s, r = .error s ∧ s.isLimit = true) := by
  induction h generalizing limit with
  | named hn => exact ⟨_, scansTo_named hn limit, .inl ⟨rfl, .named hn⟩⟩
  | number n _ =>
    refine ⟨_, scansTo_number n limit, ?_⟩
    rw [Number.outcome]
    split
    · exact .inr ⟨_, rfl, rfl⟩
    · next hshort =>
      rw [not_and, Nat.not_lt] at hshort
      exact .inl ⟨rfl, .number n hshort⟩
  | text h => exact ⟨_, scansTo_text h limit, .inl ⟨rfl, .text h⟩⟩
  | emptyList g =>
    cases limit with
    | zero => exact ⟨_, scansTo_bracket_zero _, .inr ⟨_, rfl, rfl⟩⟩
    | succ limit => exact ⟨_, scansTo_emptyList g limit, .inl ⟨rfl, .emptyList g⟩⟩
  | list hne _ ih =>
    cases limit with
    | zero => exact ⟨_, scansTo_bracket_zero _, .inr ⟨_, rfl, rfl⟩⟩
    | succ limit =>
      choose! f hscan hf using fun e he => ih e he limit
      refine ⟨_, scansTo_list hne hscan, ?_⟩
      rcases mapM_eq_ok_map_or hf with ⟨hmap, hall⟩ | ⟨s, hmap, hs⟩
      · exact .inl ⟨by rw [hmap]; rfl, .list hne hall⟩
      · exact .inr ⟨s, by rw [hmap]; rfl, hs⟩
  | emptyTable g =>
    cases limit with
    | zero => exact ⟨_, scansTo_brace_zero _, .inr ⟨_, rfl, rfl⟩⟩
    | succ limit => exact ⟨_, scansTo_emptyTable g limit, .inl ⟨rfl, .emptyTable g⟩⟩
  | table hne _ ih =>
    cases limit with
    | zero => exact ⟨_, scansTo_brace_zero _, .inr ⟨_, rfl, rfl⟩⟩
    | succ limit =>
      choose! f hscan hf using fun e he => ih e he limit
      refine ⟨_, scansTo_table hne hscan, ?_⟩
      have hkeyed := mapM_eq_ok_map_or (f := fun e : Entry => (f e).map (e.key, ·))
        (g := fun e => (e.key, e.element.value)) (P := fun s => s.isLimit = true) fun e he =>
          (hf e he).imp (fun hok => ⟨by rw [hok.1]; rfl, hok.2⟩)
            fun ⟨s, hs, hlimit⟩ => ⟨s, by rw [hs]; rfl, hlimit⟩
      rcases hkeyed with ⟨hmap, hall⟩ | ⟨s, hmap, hs⟩
      · exact .inl ⟨by rw [hmap]; simp only [Except.map, foldl_put], .table hne hall⟩
      · exact .inr ⟨s, by rw [hmap]; rfl, hs⟩

theorem ScansTo.scanDocument {limit : Nat} {r : Except Stuck Value} (h : ScansTo limit t r) :
    scanDocument limit t = r := by
  have hhead : t.head? ≠ some '\ufeff' := by
    obtain ⟨c, u, rfl, -, -, hc⟩ := h.starts
    exact fun heq => hc (Option.some.inj heq)
  have hscan := h.scan (2 * t.length + 2) [] (by omega) (fun _ hc => nomatch hc)
  have hskip := h.starts.skip_append []
  rw [List.append_nil] at hscan hskip
  rw [Json.scanDocument, if_neg hhead, hskip, hscan]
  cases r <;> rfl

theorem Spells.read_eq {limit : Nat} (h : Spells Numeral.maxDigits limit t v) :
    read limit t = .ok v := by
  rw [Json.read, h.scansTo.scanDocument]
  rfl

theorem Spells.read_or (h : Spells digits depth t v) (limit : Nat) :
    read limit t = .ok v ∧ Spells Numeral.maxDigits limit t v ∨
      ∃ s : Stuck, s.isLimit = true ∧ read limit t = .error (s.toFailure t) := by
  obtain ⟨r, hscan, hr⟩ := h.exists_scansTo limit
  rcases hr with ⟨rfl, hwithin⟩ | ⟨s, rfl, hs⟩
  · exact .inl ⟨hwithin.read_eq, hwithin⟩
  · exact .inr ⟨s, hs, by rw [Json.read, hscan.scanDocument]; rfl⟩

end Json

end ChangeFeed
