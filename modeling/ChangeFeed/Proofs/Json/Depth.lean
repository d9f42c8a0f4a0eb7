import ChangeFeed.Proofs.Json.RoundTrip

/-!
# What nests too deeply is refused

Of a value that can be read if enough containers may be opened, the depth is all that matters: where
it is too deep, reading stops at the first container that may not be opened any more
(`overflows`, by induction on the value). Everything in front of that one is read.
-/

namespace ChangeFeed.Json

variable {s : Style} {d depth depth' : Nat} {v : Value} {es : Table}

/-- The text of a value is refused for its depth, whatever follows it. -/
def Overflows (s : Style) (d depth : Nat) (v : Value) : Prop :=
  ∀ fuel rest, 2 * (valueText s d v).length ≤ fuel →
    ∃ c, scanValue depth fuel (valueText s d v ++ rest) = .error (.tooDeep c)

theorem overflows_zero {c : Char} {u : Text} (hc : c = '[' ∨ c = '\x7b')
    (h : valueText s d v = c :: u) : Overflows s d 0 v := by
  intro fuel rest hfuel
  rw [h, List.length_cons] at hfuel
  obtain ⟨fuel, rfl⟩ : ∃ f, fuel = f + 1 := ⟨fuel - 1, by omega⟩
  rw [h, List.cons_append, scanValue.eq_def]
  rcases hc with rfl | rfl
  · exact ⟨.array, by simp⟩
  · exact ⟨.object, by simp⟩

theorem scanElements_overflows (hs : s.Spaced) {vs : List Value} {fuel : Nat} (rest : Text)
    (hv : ∀ w ∈ v :: vs, Readable depth' w)
    (hread : ∀ w ∈ v :: vs, ¬Readable depth w → Overflows s d depth w)
    (hone : ∃ w ∈ v :: vs, ¬Readable depth w)
    (hfuel : 2 * (valueText s d v ++ elementsText s d vs).length + 1 ≤ fuel) :
    ∃ c, scanElements depth fuel (valueText s d v ++ (elementsText s d vs ++ rest)) =
      .error (.tooDeep c) := by
  induction vs generalizing v fuel with
  | nil =>
    obtain ⟨fuel, rfl⟩ : ∃ f, fuel = f + 1 := ⟨fuel - 1, by omega⟩
    obtain ⟨w, hw, hnot⟩ := hone
    obtain rfl := List.mem_singleton.1 hw
    rw [List.length_append] at hfuel
    obtain ⟨c, hc⟩ := hread w hw hnot fuel (elementsText s d [] ++ rest) (by omega)
    exact ⟨c, by rw [scanElements, hc]⟩
  | cons w vs ih =>
    obtain ⟨fuel, rfl⟩ : ∃ f, fuel = f + 1 := ⟨fuel - 1, by omega⟩
    obtain ⟨hfirst, hlater⟩ := List.forall_mem_cons.1 hread
    by_cases hok : Readable depth v
    · obtain ⟨g, hg, hspace⟩ := hs.separator d
      rw [elementsText_cons, hg] at hfuel
      simp only [List.length_append, List.length_cons] at hfuel
      have hbound : 2 * (valueText s d w ++ elementsText s d vs).length + 1 ≤ fuel := by
        rw [List.length_append]
        omega
      have hone : ∃ x ∈ w :: vs, ¬Readable depth x := by
        obtain ⟨x, hx, hnot⟩ := hone
        rcases List.mem_cons.1 hx with rfl | hx
        · exact absurd hok hnot
        · exact ⟨x, hx, hnot⟩
      obtain ⟨c, hc⟩ := ih (List.forall_mem_cons.1 hv).2 hlater hone hbound
      have hcomma : ∀ t, skip (',' :: t) = ',' :: t := fun t => skip_of_head? rfl (by decide)
      have hw : Readable depth' w := hv w (List.mem_cons_of_mem _ List.mem_cons_self)
      refine ⟨c, ?_⟩
      rw [scanElements, elementsText_cons, List.append_assoc, List.append_assoc,
        (readsBack hs hok d).scan fuel _ (by omega) hs.stops_separator, hg, List.cons_append]
      simp only [hcomma, skip_append hspace, skip_valueText hw]
      rw [hc]
      rfl
    · rw [List.length_append] at hfuel
      obtain ⟨c, hc⟩ := hfirst hok fuel (elementsText s d (w :: vs) ++ rest) (by omega)
      exact ⟨c, by rw [scanElements, hc]⟩

theorem overflows_list (hs : s.Spaced) {vs : List Value} (hv : ∀ w ∈ vs, Readable depth' w)
    (hread : ∀ w ∈ vs, ¬Readable depth w → Overflows s (d + 1) depth w)
    (hone : ∃ w ∈ vs, ¬Readable depth w) : Overflows s d (depth + 1) (.list vs) := by
  intro fuel rest hfuel
  cases vs with
  | nil =>
    obtain ⟨w, hw, -⟩ := hone
    cases hw
  | cons v vs =>
    obtain ⟨u, t, ht, -, hc, -⟩ :=
      exists_valueText_eq_cons (hv v List.mem_cons_self) s (d + 1)
    rw [valueText_list_cons] at hfuel ⊢
    simp only [List.length_append, List.length_cons, List.length_nil] at hfuel
    obtain ⟨fuel, rfl⟩ : ∃ f, fuel = f + 1 := ⟨fuel - 1, by omega⟩
    have hskip : skip (s.newline (d + 1) ++ (valueText s (d + 1) v ++
        (elementsText s (d + 1) vs ++ (s.newline d ++ ']' :: rest)))) =
        valueText s (d + 1) v ++ (elementsText s (d + 1) vs ++ (s.newline d ++ ']' :: rest)) := by
      rw [skip_append (hs _), skip_valueText (hv v List.mem_cons_self)]
    have hbound : 2 * (valueText s (d + 1) v ++ elementsText s (d + 1) vs).length + 1 ≤ fuel := by
      rw [List.length_append]
      omega
    obtain ⟨c, hscan⟩ := scanElements_overflows hs (s.newline d ++ ']' :: rest) hv hread
      hone hbound
    refine ⟨c, ?_⟩
    simp only [List.append_assoc, List.cons_append, List.nil_append]
    rw [scanValue_bracket (by rw [ht]; rfl) hc hskip, hscan]
    rfl

theorem overflows_table (hs : s.Spaced) (hn : (Table.keys es).Nodup)
    (hk : ∀ e ∈ es, ∃ t, e.1 = .text t) (hv : ∀ e ∈ es, Readable depth' e.2)
    (hread : ∀ e ∈ es, ¬Readable depth e.2 → Overflows s (d + 1) depth e.2)
    (hone : ∃ e ∈ es, ¬Readable depth e.2) : Overflows s d (depth + 1) (.table es) := by
  intro fuel rest hfuel
  classical
  obtain ⟨front, ⟨k, v⟩, back, rfl, hnot, hfront⟩ :=
    exists_first (p := fun e : Key × Value => !decide (Readable depth e.2)) (by simpa using hone)
  simp only [Bool.not_eq_true', Bool.not_eq_false', decide_eq_true_eq, decide_eq_false_iff_not]
    at hnot hfront
  obtain ⟨hkfront, hkback⟩ := List.forall_mem_append.1 hk
  obtain ⟨t, rfl⟩ : ∃ t, k = .text t := hkback _ List.mem_cons_self
  have hmem : (Key.text t, v) ∈ front ++ (Key.text t, v) :: back := by simp
  have hover : Overflows s (d + 1) depth v := hread _ hmem hnot
  have hnfront : (Table.keys front).Nodup := by
    rw [Table.keys, List.map_append] at hn
    exact hn.sublist (List.sublist_append_left _ _)
  have hlen : (valueText s (d + 1) v).length < (entryText s (d + 1) (.text t, v)).length :=
    length_valueText_lt s (d + 1) (.text t, v)
  rw [valueText_table] at hfuel ⊢
  simp only [List.append_assoc, List.cons_append, List.nil_append]
  simp only [List.length_append, List.length_cons, List.append_assoc, List.cons_append] at hfuel
  obtain ⟨fuel, rfl⟩ : ∃ f, fuel = f + 1 := ⟨fuel - 1, by omega⟩
  have hbound : 2 * (frontText s (d + 1) front).length +
      (2 * (valueText s (d + 1) v).length + 1) ≤ fuel := by omega
  obtain ⟨left, hleft, hscan⟩ := scanValue_frontText
    (u := entryText s (d + 1) (.text t, v) ++
      (entriesText s (d + 1) back ++ (s.newline d ++ '\x7d' :: rest)))
    hs hkfront (fun e he => readsBack hs (hfront e he) (d + 1)) hnfront rfl hbound
  obtain ⟨left, rfl⟩ : ∃ f, left = f + 1 := ⟨left - 1, by omega⟩
  obtain ⟨c, hc⟩ := hover left (entriesText s (d + 1) back ++ (s.newline d ++ '\x7d' :: rest))
    (by omega)
  refine ⟨c, ?_⟩
  rw [hscan, scanEntries_value t (skip_valueText (hv _ hmem) s (d + 1)), hc]
  rfl

/-- A value that could be read at some depth overflows where it is too deep. -/
theorem overflows (hs : s.Spaced) (h : Readable depth' v) (hnot : ¬Readable depth v) (d : Nat) :
    Overflows s d depth v := by
  induction h generalizing depth d with
  | null => exact absurd .null hnot
  | bool b => exact absurd (.bool b) hnot
  | int hi => exact absurd (.int hi) hnot
  | text t => exact absurd (.text t) hnot
  | @list _ vs h ih =>
    cases depth with
    | zero =>
      obtain ⟨u, hu⟩ : ∃ u, valueText s d (.list vs) = '[' :: u := by cases vs <;> exact ⟨_, rfl⟩
      exact overflows_zero (.inl rfl) hu
    | succ depth =>
      have hone : ∃ w ∈ vs, ¬Readable depth w := by
        by_contra hall
        exact hnot (.list fun w hw => by_contra fun hw' => hall ⟨w, hw, hw'⟩)
      exact overflows_list hs h (fun w hw hw' => ih w hw hw' (d + 1)) hone
  | @table _ es hn hk h ih =>
    cases depth with
    | zero =>
      obtain ⟨u, hu⟩ := exists_valueText_table_eq s d es
      exact overflows_zero (.inr rfl) hu
    | succ depth =>
      have hone : ∃ e ∈ es, ¬Readable depth e.2 := by
        by_contra hall
        exact hnot (.table hn hk fun e he => by_contra fun he' => hall ⟨e, he, he'⟩)
      exact overflows_table hs hn hk h (fun e he he' => ih e he he' (d + 1)) hone

theorem read_shown_of_not_readable (hs : s.Spaced) (h : Readable depth' v)
    (hnot : ¬Readable depth v) : ∃ c, read depth (shown s v) = .error (.tooDeep c) := by
  obtain ⟨x, t, ht, hx, -, hb⟩ := exists_valueText_eq_cons h s 0
  obtain ⟨c, hc⟩ := overflows hs h hnot 0 (2 * (shown s v).length + 2) [] (Nat.le_add_right _ _)
  rw [List.append_nil] at hc
  change shown s v = x :: t at ht
  change scanValue depth _ (shown s v) = _ at hc
  have hhead : (shown s v).head? ≠ some '\ufeff' := by
    rw [ht]
    exact fun he => hb (Option.some.inj he)
  have hskip : skip (shown s v) = shown s v := skip_of_head? (by rw [ht]; rfl) hx
  refine ⟨c, ?_⟩
  rw [read, scanDocument, if_neg hhead, hskip, hc]
  rfl

end ChangeFeed.Json
