import ChangeFeed.Json.Str

/-!
# Strings are read back

A string is written character by character and read code by code: a character is one code, or two
halves if it is escaped and beyond 16 bits (`codesOf`). `scanCodes_charText` goes from characters to
codes and `pointsOfCodes_flatMap` back, which no two characters can spoil, because a character is
never half of another one. A string that breaks off before its closing quote is none
(`scanString_of_open`): what is read of a text is read in the same way of every longer one
(`isSettled`, by induction on the reading).
-/

namespace ChangeFeed

namespace Text

theorem hexValue?_digitChar : ∀ d < 16, hexValue? d.digitChar = some d := by decide

theorem ofHexPadded_one {n : Nat} (h : n < 16) : ofHexPadded 1 n = [n.digitChar] := by
  simp [ofHexPadded, ofHex, Nat.toDigits_of_lt_base h, fill]

/-- The last digit is split off; the zeros in front stay with the others. -/
theorem ofHexPadded_succ {width : Nat} (hw : 0 < width) (n : Nat) :
    ofHexPadded (width + 1) n = ofHexPadded width (n / 16) ++ [(n % 16).digitChar] := by
  rcases Nat.lt_or_ge n 16 with hn | hn
  · have hf : fill width '0' = fill (width - 1) '0' ++ ['0'] := by
      rw [fill, fill, ← List.replicate_succ', Nat.sub_add_cancel hw]
    simp [ofHexPadded, ofHex, Nat.toDigits_of_lt_base hn, Nat.div_eq_of_lt hn, Nat.mod_eq_of_lt hn,
      hf]
  · have hd : Nat.toDigits 16 n = Nat.toDigits 16 (n / 16) ++ [(n % 16).digitChar] :=
      Nat.toDigits_of_base_le (by omega) hn
    simp only [ofHexPadded, ofHex, hd, List.length_append, List.length_singleton,
      Nat.add_sub_add_right, List.append_assoc]

end Text

namespace Json

variable {ascii : Bool} {c : Char} {o t u : Text}

/-! ### Escapes -/

theorem quad?_digitChar {a b c d : Nat} (ha : a < 16) (hb : b < 16) (hc : c < 16) (hd : d < 16) :
    quad? a.digitChar b.digitChar c.digitChar d.digitChar =
      some (4096 * a + 256 * b + 16 * c + d) := by
  simp [quad?, Text.hexValue?_digitChar, ha, hb, hc, hd]

theorem codeEscape_eq {n : Nat} (h : n < 0x10000) :
    codeEscape n = ['\\', 'u', (n / 16 / 16 / 16).digitChar, (n / 16 / 16 % 16).digitChar,
      (n / 16 % 16).digitChar, (n % 16).digitChar] := by
  rw [codeEscape, Text.ofHexPadded_succ (by omega), Text.ofHexPadded_succ (by omega),
    Text.ofHexPadded_succ (by omega), Text.ofHexPadded_one (by omega)]
  rfl

/-- The escape of a code is read as that code, if something stands behind it. -/
theorem scanCodes_codeEscape {n : Nat} (h : n < 0x10000) (hu : u ≠ []) :
    scanCodes o (codeEscape n ++ u) = consCode n (scanCodes o u) := by
  have hq := quad?_digitChar (a := n / 16 / 16 / 16) (b := n / 16 / 16 % 16) (c := n / 16 % 16)
    (d := n % 16) (by omega) (by omega) (by omega) (by omega)
  have hn :
      4096 * (n / 16 / 16 / 16) + 256 * (n / 16 / 16 % 16) + 16 * (n / 16 % 16) + n % 16 = n :=
    by omega
  rw [hn] at hq
  obtain ⟨e, r, rfl⟩ := List.exists_cons_of_ne_nil hu
  rw [codeEscape_eq h, scanCodes.eq_def]
  simp [hq]

theorem scanCodes_halves {n : Nat} (h : n < 0x100000) (hu : u ≠ []) :
    scanCodes o (codeEscape (0xd800 + n / 1024) ++ codeEscape (0xdc00 + n % 1024) ++ u) =
      [0xd800 + n / 1024, 0xdc00 + n % 1024].foldr consCode (scanCodes o u) := by
  have hne : codeEscape (0xdc00 + n % 1024) ++ u ≠ [] := by simp [codeEscape]
  rw [List.append_assoc, scanCodes_codeEscape (by omega) hne, scanCodes_codeEscape (by omega) hu,
    List.foldr_cons, List.foldr_cons, List.foldr_nil]

theorem scanCodes_shortEscape {x d : Char} (hx : x ≠ 'u') (hd : shortEscape? x = some d) :
    scanCodes o ('\\' :: x :: u) = consCode d.toNat (scanCodes o u) := by
  rw [scanCodes.eq_def]
  simp [hx, hd]

theorem scanCodes_of_plain (hq : c ≠ '"') (hb : c ≠ '\\') (hc : 0x20 ≤ c.toNat) :
    scanCodes o (c :: u) = consCode c.toNat (scanCodes o u) := by
  rw [scanCodes.eq_def]
  simp [hq, hb, Nat.not_lt.2 hc]

/-- The codes that a character is read as: two halves if it is escaped and beyond 16 bits. -/
def codesOf (ascii : Bool) (c : Char) : List Nat :=
  if ascii ∧ 0x10000 ≤ c.toNat then
    [0xd800 + (c.toNat - 0x10000) / 1024, 0xdc00 + (c.toNat - 0x10000) % 1024]
  else [c.toNat]

theorem codesOf_of_lt (h : c.toNat < 0x10000) : codesOf ascii c = [c.toNat] :=
  if_neg fun hc => absurd hc.2 (Nat.not_le.2 h)

theorem toNat_bounds (c : Char) :
    c.toNat < 0xd800 ∨ (0xdfff < c.toNat ∧ c.toNat < 0x110000) := c.valid

theorem scanCodes_charText (hu : u ≠ []) :
    scanCodes o (charText ascii c ++ u) = (codesOf ascii c).foldr consCode (scanCodes o u) := by
  have hlt := toNat_bounds c
  have hshort : ∀ x : Char, x ≠ 'u' → shortEscape? x = some c → c.toNat < 0x10000 →
      scanCodes o ('\\' :: x :: u) = (codesOf ascii c).foldr consCode (scanCodes o u) :=
    fun x hx hd hc => by rw [scanCodes_shortEscape hx hd, codesOf_of_lt hc]; rfl
  unfold charText
  split
  · next h =>
    rcases h with rfl | rfl
    · exact hshort '"' (by decide) (by decide) (by decide)
    · exact hshort '\\' (by decide) (by decide) (by decide)
  next hplain =>
  rw [not_or] at hplain
  split
  · next h => exact hshort 'n' (by decide) (by rw [h]; decide) (by rw [h]; decide)
  split
  · next h => exact hshort 'r' (by decide) (by rw [h]; decide) (by rw [h]; decide)
  split
  · next h => exact hshort 't' (by decide) (by rw [h]; decide) (by rw [h]; decide)
  split
  · next h => exact hshort 'b' (by decide) (by rw [h]; decide) (by rw [h]; decide)
  split
  · next h => exact hshort 'f' (by decide) (by rw [h]; decide) (by rw [h]; decide)
  split
  · split
    · next hc =>
      rw [scanCodes_codeEscape hc hu, codesOf_of_lt hc]
      rfl
    · next hesc hc =>
      have ha : ascii = true := by
        rcases hesc with h | h
        · omega
        · exact h.1
      rw [codesOf, if_pos ⟨ha, Nat.not_lt.1 hc⟩]
      exact scanCodes_halves (by omega) hu
  · next hesc =>
    rw [not_or, not_and] at hesc
    have hone : codesOf ascii c = [c.toNat] := by
      refine if_neg fun hc => ?_
      have := hesc.2 hc.1
      omega
    rw [hone]
    exact scanCodes_of_plain hplain.1 hplain.2 (Nat.not_lt.1 hesc.1)

/-! ### Codes -/

theorem ofCode_toNat (c : Char) : CodePoint.ofCode c.toNat = .char c := by
  have hlt := toNat_bounds c
  have h : ¬(CodePoint.firstHalf ≤ c.toNat ∧ c.toNat < CodePoint.firstHalf + 0x800) := by
    rw [CodePoint.firstHalf]
    omega
  rw [CodePoint.ofCode, dif_neg h, Char.ofNat_toNat]

theorem pointsOfCodes_cons {n : Nat} {ns : List Nat} (h : isHighHalf n = false) :
    pointsOfCodes (n :: ns) = .ofCode n :: pointsOfCodes ns := by
  cases ns with
  | nil => rfl
  | cons m ns => simp [pointsOfCodes, h]

theorem pointsOfCodes_codesOf_append (ns : List Nat) :
    pointsOfCodes (codesOf ascii c ++ ns) = .char c :: pointsOfCodes ns := by
  have hlt := toNat_bounds c
  unfold codesOf
  split
  · next hc =>
    have hh : isHighHalf (0xd800 + (c.toNat - 0x10000) / 1024) = true := by
      simp only [isHighHalf, Bool.and_eq_true, decide_eq_true_eq]
      omega
    have hl : isLowHalf (0xdc00 + (c.toNat - 0x10000) % 1024) = true := by
      simp only [isLowHalf, Bool.and_eq_true, decide_eq_true_eq]
      omega
    have hn : 0x10000 + (0xd800 + (c.toNat - 0x10000) / 1024 - 0xd800) * 1024 +
        (0xdc00 + (c.toNat - 0x10000) % 1024 - 0xdc00) = c.toNat := by omega
    rw [List.cons_append, List.cons_append, List.nil_append, pointsOfCodes, hh, hl, Bool.and_self,
      if_pos rfl, hn, Char.ofNat_toNat]
  · have hh : isHighHalf c.toNat = false := by
      simp only [isHighHalf, Bool.and_eq_false_iff, decide_eq_false_iff_not]
      omega
    rw [List.singleton_append, pointsOfCodes_cons hh, ofCode_toNat]

theorem pointsOfCodes_flatMap (ascii : Bool) (t : Text) :
    pointsOfCodes (t.flatMap (codesOf ascii)) = CodePoints.ofText t := by
  induction t with
  | nil => rfl
  | cons c t ih =>
    rw [List.flatMap_cons, pointsOfCodes_codesOf_append, ih]
    rfl

/-! ### Whole strings -/

theorem foldr_consCode (ns ms : List Nat) (r : Text) :
    ns.foldr consCode (.ok (ms, r)) = .ok (ns ++ ms, r) := by
  induction ns with
  | nil => rfl
  | cons n ns ih => rw [List.foldr_cons, ih]; rfl

theorem scanCodes_flatMap (ascii : Bool) (o t r : Text) :
    scanCodes o (t.flatMap (charText ascii) ++ '"' :: r) = .ok (t.flatMap (codesOf ascii), r) := by
  induction t with
  | nil =>
    rw [List.flatMap_nil, List.nil_append, scanCodes.eq_def]
    rfl
  | cons c t ih =>
    rw [List.flatMap_cons, List.append_assoc, scanCodes_charText (by simp), ih, foldr_consCode,
      List.flatMap_cons]

/-- A written string is read back, whatever follows it. -/
theorem scanString_stringText (ascii : Bool) (o t r : Text) :
    scanString o (t.flatMap (charText ascii) ++ '"' :: r) = .ok (CodePoints.ofText t, r) := by
  rw [scanString, scanCodes_flatMap]
  simp only [Except.map, pointsOfCodes_flatMap]

/-- Codes are read up to a fault, or in the same way of every longer text. -/
def IsSettled (o t : Text) : Prop :=
  (∃ f r, scanCodes o t = .error (.fault f r)) ∨
    ∃ ns r, scanCodes o t = .ok (ns, r) ∧ ∀ v, scanCodes o (t ++ v) = .ok (ns, r ++ v)

theorem IsSettled.of_step {n : Nat}
    (hs : ∀ v, scanCodes o (u ++ v) = consCode n (scanCodes o (t ++ v))) (h : IsSettled o t) :
    IsSettled o u := by
  have hu := hs []
  rw [List.append_nil, List.append_nil] at hu
  rcases h with ⟨f, r, hf⟩ | ⟨ns, r, hok, hv⟩
  · exact .inl ⟨f, r, by rw [hu, hf]; rfl⟩
  · exact .inr ⟨n :: ns, r, by rw [hu, hok]; rfl, fun v => by rw [hs, hv]; rfl⟩

theorem isSettled (o t : Text) : IsSettled o t := by
  induction t using scanCodes.induct with
  | case1 => exact .inl ⟨_, _, by rw [scanCodes.eq_def]⟩
  | case2 t =>
    exact .inr ⟨[], t, by rw [scanCodes.eq_def]; rfl, fun v => by rw [scanCodes.eq_def]; rfl⟩
  | case3 => exact .inl ⟨_, _, by rw [scanCodes.eq_def]; rfl⟩
  | case4 h₁ h₂ h₃ h₄ e t n hq _ ih =>
    refine .of_step (n := n) (fun v => ?_) ih
    rw [scanCodes.eq_def]
    simp [hq]
  | case5 h₁ h₂ h₃ h₄ e t hq =>
    refine .inl ⟨.unicodeEscape, 'u' :: h₁ :: h₂ :: h₃ :: h₄ :: e :: t, ?_⟩
    rw [scanCodes.eq_def]
    simp [hq]
  | case6 t hu =>
    refine .inl ⟨.unicodeEscape, 'u' :: t, ?_⟩
    rw [scanCodes.eq_def]
    simp only [Char.reduceEq, if_true, if_false]
  | case7 x t hx d hd _ ih =>
    exact .of_step (fun v => scanCodes_shortEscape hx hd) ih
  | case8 x t hx hd =>
    refine .inl ⟨.escape, '\\' :: x :: t, ?_⟩
    rw [scanCodes.eq_def]
    simp [hx, hd]
  | case9 c t hq hb hc =>
    refine .inl ⟨.control, c :: t, ?_⟩
    rw [scanCodes.eq_def]
    simp [hq, hb, hc]
  | case10 c t hq hb hc ih =>
    exact .of_step (fun v => scanCodes_of_plain hq hb (Nat.not_lt.1 hc)) ih

theorem scanString_of_open {v : Text} (h : t.flatMap (charText ascii) = u ++ v) :
    ∃ f r, scanString o u = .error (.fault f r) := by
  rcases isSettled o u with ⟨f, r, hf⟩ | ⟨ns, r, -, hv⟩
  · exact ⟨f, r, by rw [scanString, hf]; rfl⟩
  · -- the closing quote would be left over, but it is the end of the string
    have hl := hv (v ++ ['"'])
    rw [← List.append_assoc, ← h, scanCodes_flatMap] at hl
    have hr := (Prod.mk.inj (Except.ok.inj hl)).2
    simp at hr

end Json

end ChangeFeed
