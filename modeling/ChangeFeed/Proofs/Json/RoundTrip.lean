import ChangeFeed.Json.Writer
import ChangeFeed.Proofs.Json.Number
import ChangeFeed.Proofs.Json.String
import Mathlib.Data.List.Basic

/-!
# What is written is read back

`Readable depth v` says that `v` has a text which is read as `v` where `depth` containers may still
be opened: its numbers are whole and not too long, and the keys of its tables are distinct texts. It
does not matter how wide the value is indented, only that nothing but space stands between two
tokens (`Style.Spaced`). That values are read back (`readsBack`) is by induction on `Readable`; the
entries of a table are read one by one in front of whatever stands behind them
(`scanEntries_through`), so the same lemma says where the reading of a table that breaks off gets
to.
-/

namespace ChangeFeed

theorem exists_first {α : Type} {p : α → Bool} {l : List α} (h : ∃ a ∈ l, p a = true) :
    ∃ front a back, l = front ++ a :: back ∧ p a = true ∧ ∀ b ∈ front, p b = false := by
  obtain ⟨a, ha⟩ := Option.isSome_iff_exists.1 (List.find?_isSome.2 h)
  obtain ⟨hp, front, back, rfl, hf⟩ := List.find?_eq_some_iff_append.1 ha
  exact ⟨front, a, back, rfl, hp, fun b hb => by simpa using hf b hb⟩

theorem Table.set_of_not_mem {key : Key} {t : Table} (h : key ∉ keys t) (v : Value) :
    set key v t = t ++ [(key, v)] := by
  induction t with
  | nil => rfl
  | cons e t ih =>
    simp only [keys, List.map_cons, List.mem_cons, not_or] at h ih
    rw [set, if_neg (Ne.symm h.1), ih h.2, List.cons_append]

theorem Table.not_mem_keys_of_nodup {key : Key} {v : Value} {front back : Table}
    (h : (keys (front ++ (key, v) :: back)).Nodup) : key ∉ keys front := by
  rw [keys, List.map_append, List.nodup_append] at h
  exact fun hk => h.2.2 _ hk _ List.mem_cons_self rfl

namespace Json

/-- Values that are read as what they were written from, if `depth` containers may be opened. -/
inductive Readable : Nat → Value → Prop where
  | null {depth : Nat} : Readable depth .null
  | bool {depth : Nat} (b : Bool) : Readable depth (.bool b)
  | int {depth : Nat} {i : Int} : Numeral.fits i = true → Readable depth (.int i)
  | text {depth : Nat} (t : Text) : Readable depth (.text t)
  | list {depth : Nat} {vs : List Value} : (∀ v ∈ vs, Readable depth v) →
      Readable (depth + 1) (.list vs)
  | table {depth : Nat} {es : Table} : (Table.keys es).Nodup → (∀ e ∈ es, ∃ t, e.1 = .text t) →
      (∀ e ∈ es, Readable depth e.2) → Readable (depth + 1) (.table es)

theorem Readable.mono {depth limit : Nat} {v : Value} (h : Readable depth v) (hle : depth ≤ limit) :
    Readable limit v := by
  induction h generalizing limit with
  | null => exact .null
  | bool b => exact .bool b
  | int hi => exact .int hi
  | text t => exact .text t
  | list _ ih =>
    obtain ⟨n, rfl⟩ := Nat.exists_eq_add_of_le' (Nat.one_le_of_lt hle)
    exact .list fun v hv => ih v hv (Nat.le_of_succ_le_succ hle)
  | table hn hk _ ih =>
    obtain ⟨n, rfl⟩ := Nat.exists_eq_add_of_le' (Nat.one_le_of_lt hle)
    exact .table hn hk fun e he => ih e he (Nat.le_of_succ_le_succ hle)

/-- Nothing but space stands in front of the lines. -/
def Style.Spaced (s : Style) : Prop := ∀ d, ∀ c ∈ s.newline d, isSpace c = true

theorem Style.spaced_of_indent_eq_none {s : Style} (h : s.indent = none) : s.Spaced := by
  intro d c hc
  simp [newline, h] at hc

theorem Style.spaced_of_spaces (ascii : Bool) (n : Int) :
    ({ ascii, indent := some (.spaces n) } : Style).Spaced := by
  intro d c hc
  rcases List.mem_cons.1 hc with rfl | hc
  · decide
  · rw [List.eq_of_mem_replicate hc]
    decide

theorem Style.spaced_of_map_spaces (ascii : Bool) (indent : Option Int) :
    ({ ascii, indent := indent.map .spaces } : Style).Spaced := by
  cases indent with
  | none => exact spaced_of_indent_eq_none rfl
  | some n => exact spaced_of_spaces ascii n

/-- A value at a depth, with halves escaped. -/
def valueText (s : Style) (d : Nat) (v : Value) : Text := valueIn .escaping s d v

/-- The elements of a list behind the first one, with halves escaped. -/
def elementsText (s : Style) (d : Nat) (vs : List Value) : Text := elementsIn .escaping s d vs

/-- The entries of a table behind the first one, with halves escaped. -/
def entriesText (s : Style) (d : Nat) (es : Table) : Text := entriesIn .escaping s d es

/-- The text of an entry. -/
def entryText (s : Style) (d : Nat) (e : Key × Value) : Text :=
  Alphabet.escaping.key s.ascii e.1 ++ ": " ++ valueText s d e.2

/-- Entries with the separator behind each. -/
def frontText (s : Style) (d : Nat) (es : Table) : Text :=
  es.flatMap fun e => entryText s d e ++ s.separator d

section
variable (s : Style) (d : Nat)

theorem valueText_text (t : Text) : valueText s d (.text t) = stringText s.ascii t := rfl

theorem valueText_list_cons (v : Value) (vs : List Value) : valueText s d (.list (v :: vs)) =
    '[' :: s.newline (d + 1) ++ valueText s (d + 1) v ++ elementsText s (d + 1) vs ++
      s.newline d ++ [']'] := rfl

theorem valueText_table_cons (e : Key × Value) (es : Table) : valueText s d (.table (e :: es)) =
    '\x7b' :: s.newline (d + 1) ++ Alphabet.escaping.key s.ascii e.1 ++ ": " ++
      valueText s (d + 1) e.2 ++ entriesText s (d + 1) es ++ s.newline d ++ ['\x7d'] := rfl

theorem elementsText_nil : elementsText s d [] = [] := rfl

theorem elementsText_cons (v : Value) (vs : List Value) : elementsText s d (v :: vs) =
    s.separator d ++ valueText s d v ++ elementsText s d vs := rfl

theorem entriesText_nil : entriesText s d [] = [] := rfl

theorem entriesText_cons (e : Key × Value) (es : Table) : entriesText s d (e :: es) =
    s.separator d ++ Alphabet.escaping.key s.ascii e.1 ++ ": " ++ valueText s d e.2 ++
      entriesText s d es := rfl

theorem entryText_text (t : Text) (v : Value) :
    entryText s d (.text t, v) = stringText s.ascii t ++ ": " ++ valueText s d v := rfl

end

variable {s : Style} {d depth fuel : Nat} {v : Value} {es : Table} {g rest u : Text}

/-! ### Space between tokens -/

theorem skip_append (h : ∀ c ∈ g, isSpace c = true) (t : Text) : skip (g ++ t) = skip t :=
  List.dropWhile_append_of_pos h

theorem skip_of_head? {c : Char} (h : rest.head? = some c) (hc : isSpace c = false) :
    skip rest = rest := by
  obtain ⟨t, rfl⟩ := List.head?_eq_some_iff.1 h
  exact List.dropWhile_cons_of_neg (by simp [hc])

theorem stops_append (h : ∀ c ∈ g, isSpace c = true) (hr : Stops rest) : Stops (g ++ rest) := by
  cases g with
  | nil => exact hr
  | cons c g =>
    intro x hx
    obtain rfl : c = x := Option.some.inj hx
    have hc := h c List.mem_cons_self
    simp only [isSpace, Bool.or_eq_true, beq_iff_eq] at hc
    rcases hc with ((rfl | rfl) | rfl) | rfl <;> decide

theorem stops_cons {c : Char}
    (h : Text.isAsciiDigit c = false ∧ c ≠ '.' ∧ c ≠ 'e' ∧ c ≠ 'E') : Stops (c :: rest) := by
  intro x hx
  obtain rfl : c = x := Option.some.inj hx
  exact h

theorem Style.Spaced.separator (hs : s.Spaced) (d : Nat) :
    ∃ g, s.separator d = ',' :: g ∧ ∀ c ∈ g, isSpace c = true := by
  unfold Style.separator
  split
  · exact ⟨[' '], rfl, List.forall_mem_singleton.2 rfl⟩
  · exact ⟨s.newline d, rfl, hs d⟩

theorem Style.Spaced.stops_separator (hs : s.Spaced) : Stops (s.separator d ++ rest) := by
  obtain ⟨g, hg, -⟩ := hs.separator d
  rw [hg]
  exact stops_cons (by decide)

/-! ### The texts of tables and lists -/

theorem entriesText_eq_flatMap (s : Style) (d : Nat) (es : Table) :
    entriesText s d es = es.flatMap fun e => s.separator d ++ entryText s d e := by
  induction es with
  | nil => rfl
  | cons e es ih =>
    rw [entriesText_cons, ih, List.flatMap_cons, entryText]
    simp only [List.append_assoc]

theorem flatMap_append_comm {α : Type} (f : α → Text) (g t : Text) (l : List α) :
    (l.flatMap fun a => g ++ f a) ++ (g ++ t) = g ++ ((l.flatMap fun a => f a ++ g) ++ t) := by
  induction l with
  | nil => rfl
  | cons a l ih => simp only [List.flatMap_cons, List.append_assoc, ih]

theorem valueText_table (s : Style) (d : Nat) (front : Table) (e : Key × Value) (back : Table) :
    valueText s d (.table (front ++ e :: back)) =
      '\x7b' :: s.newline (d + 1) ++ frontText s (d + 1) front ++ entryText s (d + 1) e ++
        entriesText s (d + 1) back ++ s.newline d ++ ['\x7d'] := by
  cases front with
  | nil =>
    rw [List.nil_append, valueText_table_cons, entryText, frontText]
    simp only [List.flatMap_nil, List.append_assoc, List.append_nil, List.cons_append]
  | cons f front =>
    rw [List.cons_append, valueText_table_cons, entriesText_eq_flatMap, entriesText_eq_flatMap,
      frontText, List.flatMap_append, List.flatMap_cons, List.flatMap_cons]
    simp only [List.append_assoc, flatMap_append_comm]
    simp only [entryText, List.append_assoc, List.cons_append]

theorem exists_valueText_table_eq (s : Style) (d : Nat) (es : Table) :
    ∃ t, valueText s d (.table es) = '\x7b' :: (t ++ ['\x7d']) := by
  cases es with
  | nil => exact ⟨[], rfl⟩
  | cons e es =>
    have ht := valueText_table s d [] e es
    rw [List.nil_append, List.cons_append] at ht
    exact ⟨_, ht⟩

/-- The text of a value that can be read starts with a character that starts nothing else. -/
theorem exists_valueText_eq_cons (h : Readable depth v) (s : Style) (d : Nat) :
    ∃ c t, valueText s d v = c :: t ∧ isSpace c = false ∧ c ≠ ']' ∧ c ≠ '\ufeff' := by
  cases h with
  | null => exact ⟨_, _, rfl, by decide⟩
  | bool b => cases b <;> exact ⟨_, _, rfl, by decide⟩
  | text t => exact ⟨_, _, rfl, by decide⟩
  | @list depth vs _ => cases vs <;> exact ⟨_, _, rfl, by decide⟩
  | @table depth es _ _ _ => cases es <;> exact ⟨_, _, rfl, by decide⟩
  | @int depth i _ =>
    obtain ⟨c, t, ht, hc⟩ := Text.exists_ofInt_eq_cons i
    refine ⟨c, t, ht, ?_, hc ']' rfl (by decide), hc '\ufeff' rfl (by decide)⟩
    simp [isSpace, hc ' ' rfl (by decide), hc '\t' rfl (by decide), hc '\n' rfl (by decide),
      hc '\r' rfl (by decide)]

theorem skip_valueText (h : Readable depth v) (s : Style) (d : Nat) (t : Text) :
    skip (valueText s d v ++ t) = valueText s d v ++ t := by
  obtain ⟨c, u, hu, hc, -⟩ := exists_valueText_eq_cons h s d
  rw [hu]
  exact List.dropWhile_cons_of_neg (by simp [hc])

/-! ### Names and numbers -/

theorem scanNamed?_ofInt (i : Int) (rest : Text) : scanNamed? (Text.ofInt i ++ rest) = none := by
  cases i with
  | ofNat n =>
    obtain ⟨c, t, ht, hc⟩ := Text.exists_ofNat_eq_cons n
    simp [scanNamed?, named, Text.ofInt, ht, Text.rest?, (hc 'n' rfl).symm, (hc 't' rfl).symm,
      (hc 'f' rfl).symm, (hc 'N' rfl).symm, (hc 'I' rfl).symm, (hc '-' rfl).symm]
  | negSucc n =>
    obtain ⟨c, t, ht, hc⟩ := Text.exists_ofNat_eq_cons (n + 1)
    simp [scanNamed?, named, Text.ofInt, ht, Text.rest?, (hc 'I' rfl).symm]

/-! ### Values -/

/-- The text of a value is read as the value in front of whatever may follow it. -/
structure ReadsBack (s : Style) (d depth : Nat) (v : Value) : Prop where
  skip : ∀ t, skip (valueText s d v ++ t) = valueText s d v ++ t
  scan : ∀ fuel rest, 2 * (valueText s d v).length ≤ fuel → Stops rest →
    scanValue depth fuel (valueText s d v ++ rest) = .ok (v, rest)

theorem scanEntries_value {before : Table} (t : Text)
    (hskip : ∀ u, skip (valueText s d v ++ u) = valueText s d v ++ u) :
    scanEntries depth (fuel + 1) before (entryText s d (.text t, v) ++ rest) =
      match scanValue depth fuel (valueText s d v ++ rest) with
      | .error e => .error e
      | .ok (w, u) =>
        match skip u with
        | '\x7d' :: u => .ok (Table.set (.text t) w before, u)
        | ',' :: u => scanEntries depth fuel (Table.set (.text t) w before) (skip u)
        | u => .error (.fault .comma u) := by
  have hcolon : skip ((": " : Text) ++ (valueText s d v ++ rest)) =
      ':' :: ' ' :: (valueText s d v ++ rest) := rfl
  have hspace : skip (' ' :: (valueText s d v ++ rest)) = valueText s d v ++ rest :=
    (skip_append (g := [' ']) (List.forall_mem_singleton.2 rfl) _).trans (hskip rest)
  have htext : entryText s d (.text t, v) ++ rest =
      '"' :: (t.flatMap (charText s.ascii) ++ '"' :: (": " ++ (valueText s d v ++ rest))) := by
    simp only [entryText_text, stringText, List.append_assoc, List.cons_append, List.nil_append]
  have hscan := scanEntries.eq_2 depth before fuel
    (t.flatMap (charText s.ascii) ++ '"' :: (": " ++ (valueText s d v ++ rest)))
  simp only [scanString_stringText, hcolon, hspace, Key.ofPoints_ofText] at hscan
  rw [htext]
  exact hscan

/-- One entry is read, and what stands behind it decides how reading goes on. -/
theorem scanEntries_entry {before : Table} (t : Text) (hv : ReadsBack s d depth v)
    (hfuel : 2 * (valueText s d v).length ≤ fuel) (hrest : Stops rest) :
    scanEntries depth (fuel + 1) before (entryText s d (.text t, v) ++ rest) =
      match skip rest with
      | '\x7d' :: w => .ok (Table.set (.text t) v before, w)
      | ',' :: w => scanEntries depth fuel (Table.set (.text t) v before) (skip w)
      | w => .error (.fault .comma w) := by
  rw [scanEntries_value t hv.skip, hv.scan fuel rest hfuel hrest]

theorem length_valueText_lt (s : Style) (d : Nat) (e : Key × Value) :
    (valueText s d e.2).length < (entryText s d e).length := by
  have hcolon : (": " : Text).length = 2 := rfl
  simp only [entryText, List.length_append, hcolon]
  omega

theorem scanEntries_comma (hs : s.Spaced) {t : Text} {before : Table} (hv : ReadsBack s d depth v)
    (hkey : Key.text t ∉ Table.keys before) (hfuel : 2 * (valueText s d v).length ≤ fuel)
    (hrest : skip rest = rest) :
    scanEntries depth (fuel + 1) before
        (entryText s d (.text t, v) ++ (s.separator d ++ rest)) =
      scanEntries depth fuel (before ++ [(.text t, v)]) rest := by
  obtain ⟨g, hg, hspace⟩ := hs.separator d
  have hcomma : skip (s.separator d ++ rest) = ',' :: (g ++ rest) := by
    rw [hg]
    rfl
  rw [scanEntries_entry t hv hfuel hs.stops_separator, hcomma]
  simp only [skip_append hspace, hrest, Table.set_of_not_mem hkey]

theorem scanEntries_brace (hs : s.Spaced) {t : Text} {before : Table} {d' : Nat}
    (hv : ReadsBack s d depth v) (hkey : Key.text t ∉ Table.keys before)
    (hfuel : 2 * (valueText s d v).length ≤ fuel) :
    scanEntries depth (fuel + 1) before
        (entryText s d (.text t, v) ++ (s.newline d' ++ '\x7d' :: rest)) =
      .ok (before ++ [(.text t, v)], rest) := by
  have hstop : Stops (s.newline d' ++ '\x7d' :: rest) :=
    stops_append (hs d') (stops_cons (by decide))
  have hend : skip (s.newline d' ++ '\x7d' :: rest) = '\x7d' :: rest := by
    rw [skip_append (hs d')]
    rfl
  rw [scanEntries_entry t hv hfuel hstop, hend]
  simp only [Table.set_of_not_mem hkey]

theorem head?_frontText_append (hu : u.head? = some '"') :
    (frontText s d es ++ u).head? = some '"' := by
  cases es with
  | nil => exact hu
  | cons e es =>
    obtain ⟨k, v⟩ := e
    cases k <;> rfl

theorem skip_frontText_append (hu : u.head? = some '"') :
    skip (frontText s d es ++ u) = frontText s d es ++ u :=
  skip_of_head? (head?_frontText_append hu) (by decide)

/-- Entries are read one by one, whatever comes then; `n` is the fuel that is needed for what comes
then. -/
theorem scanEntries_through (hs : s.Spaced) {before : Table} {n : Nat}
    (hk : ∀ e ∈ es, ∃ t, e.1 = .text t) (hv : ∀ e ∈ es, ReadsBack s d depth e.2)
    (hn : (Table.keys (before ++ es)).Nodup) (hu : u.head? = some '"')
    (hfuel : 2 * (frontText s d es).length + n ≤ fuel) :
    ∃ left, n ≤ left ∧ scanEntries depth fuel before (frontText s d es ++ u) =
      scanEntries depth left (before ++ es) u := by
  induction es generalizing before fuel with
  | nil => exact ⟨fuel, by simpa [frontText] using hfuel, by rw [List.append_nil]; rfl⟩
  | cons e es ih =>
    rw [List.forall_mem_cons] at hk hv
    obtain ⟨k, v⟩ := e
    obtain ⟨t, rfl⟩ : ∃ t, k = .text t := hk.1
    have hfirst : ReadsBack s d depth v := hv.1
    have hkey : Key.text t ∉ Table.keys before := Table.not_mem_keys_of_nodup hn
    have hn' : (Table.keys ((before ++ [(Key.text t, v)]) ++ es)).Nodup := by
      rwa [List.append_assoc]
    have hfront : frontText s d ((.text t, v) :: es) =
        entryText s d (.text t, v) ++ (s.separator d ++ frontText s d es) := by
      rw [frontText, List.flatMap_cons, List.append_assoc]
      rfl
    have hlen : (valueText s d v).length < (entryText s d (.text t, v)).length :=
      length_valueText_lt s d (.text t, v)
    rw [hfront] at hfuel ⊢
    rw [List.length_append, List.length_append] at hfuel
    obtain ⟨fuel, rfl⟩ : ∃ f, fuel = f + 1 := ⟨fuel - 1, by omega⟩
    have hbound : 2 * (frontText s d es).length + n ≤ fuel := by omega
    obtain ⟨left, hleft, hscan⟩ := ih hk.2 hv.2 hn' hbound
    refine ⟨left, hleft, ?_⟩
    rw [List.append_assoc, List.append_assoc,
      scanEntries_comma hs hfirst hkey (by omega) (skip_frontText_append hu), hscan,
      List.append_assoc]
    rfl

theorem scanElements_valueText (hs : s.Spaced) {vs : List Value} {d' : Nat}
    (hv : ∀ w ∈ v :: vs, ReadsBack s d depth w)
    (hfuel : 2 * (valueText s d v ++ elementsText s d vs).length + 1 ≤ fuel) :
    scanElements depth fuel
        (valueText s d v ++ (elementsText s d vs ++ (s.newline d' ++ ']' :: rest))) =
      .ok (v :: vs, rest) := by
  induction vs generalizing v fuel with
  | nil =>
    obtain ⟨fuel, rfl⟩ : ∃ f, fuel = f + 1 := ⟨fuel - 1, by omega⟩
    have hstop : Stops (s.newline d' ++ ']' :: rest) :=
      stops_append (hs d') (stops_cons (by decide))
    have hend : skip (s.newline d' ++ ']' :: rest) = ']' :: rest := by
      rw [skip_append (hs d'), skip_of_head? rfl (by decide)]
    rw [List.length_append] at hfuel
    rw [scanElements, elementsText_nil, List.nil_append,
      (hv v List.mem_cons_self).scan fuel _ (by omega) hstop]
    simp only [hend]
  | cons w vs ih =>
    obtain ⟨fuel, rfl⟩ : ∃ f, fuel = f + 1 := ⟨fuel - 1, by omega⟩
    obtain ⟨g, hg, hspace⟩ := hs.separator d
    rw [elementsText_cons, hg] at hfuel
    simp only [List.length_append, List.length_cons] at hfuel
    have hbound : 2 * (valueText s d w ++ elementsText s d vs).length + 1 ≤ fuel := by
      rw [List.length_append]
      omega
    have hrest := ih (fun x hx => hv x (List.mem_cons_of_mem _ hx)) hbound
    rw [scanElements, elementsText_cons, List.append_assoc, List.append_assoc,
      (hv v List.mem_cons_self).scan fuel _ (by omega) hs.stops_separator, hg, List.cons_append]
    have hcomma : ∀ t, skip (',' :: t) = ',' :: t := fun t => skip_of_head? rfl (by decide)
    simp only [hcomma, skip_append hspace, (hv w (by simp)).skip]
    rw [hrest]
    rfl

/-! ### Containers -/

theorem scanValue_brace (h : u.head? = some '"') (hu : skip rest = u) :
    scanValue (depth + 1) (fuel + 1) ('\x7b' :: rest) =
      (scanEntries depth fuel [] u).map fun r => (.table r.1, r.2) := by
  obtain ⟨t, rfl⟩ := List.head?_eq_some_iff.1 h
  rw [scanValue.eq_def]
  simp [hu]

theorem scanValue_bracket {c : Char} (h : u.head? = some c) (hc : c ≠ ']') (hu : skip rest = u) :
    scanValue (depth + 1) (fuel + 1) ('[' :: rest) =
      (scanElements depth fuel u).map fun r => (.list r.1, r.2) := by
  obtain ⟨t, rfl⟩ := List.head?_eq_some_iff.1 h
  rw [scanValue.eq_def]
  simp [hu, hc]

theorem scanValue_named {c : Char} {r : Value × Text} (hq : c ≠ '"') (ho : c ≠ '\x7b')
    (hl : c ≠ '[') (h : scanNamed? (c :: rest) = some r) :
    scanValue depth (fuel + 1) (c :: rest) = .ok r := by
  rw [scanValue.eq_def]
  simp [hq, ho, hl, h]

theorem scanValue_ofInt {i : Int} (hi : Numeral.fits i = true) (h : Stops rest) :
    scanValue depth (fuel + 1) (Text.ofInt i ++ rest) = .ok (.int i, rest) := by
  have hnamed := scanNamed?_ofInt i rest
  have hnumber := scanNumber_ofInt hi h
  obtain ⟨c, t, ht, hc⟩ := Text.exists_ofInt_eq_cons i
  have hq : c ≠ '"' := hc _ rfl (by decide)
  have ho : c ≠ '\x7b' := hc _ rfl (by decide)
  have hl : c ≠ '[' := hc _ rfl (by decide)
  rw [ht, List.cons_append] at hnamed hnumber ⊢
  rw [scanValue.eq_def]
  simp [hq, ho, hl, hnamed, hnumber]

theorem ReadsBack.of_succ (h : Readable depth v)
    (hs : ∀ fuel rest, 2 * (valueText s d v).length ≤ fuel + 1 → Stops rest →
      scanValue depth (fuel + 1) (valueText s d v ++ rest) = .ok (v, rest)) :
    ReadsBack s d depth v := by
  obtain ⟨c, t, ht, -⟩ := exists_valueText_eq_cons h s d
  refine ⟨skip_valueText h s d, fun fuel rest hfuel hrest => ?_⟩
  cases fuel with
  | zero => simp [ht] at hfuel
  | succ fuel => exact hs fuel rest hfuel hrest

theorem readsBack_list (hs : s.Spaced) {vs : List Value} (h : ∀ v ∈ vs, Readable depth v)
    (hv : ∀ v ∈ vs, ReadsBack s (d + 1) depth v) : ReadsBack s d (depth + 1) (.list vs) := by
  refine .of_succ (.list h) fun fuel rest hfuel hrest => ?_
  cases vs with
  | nil =>
    rw [scanValue.eq_def]
    rfl
  | cons v vs =>
    obtain ⟨c, t, ht, -, hc, -⟩ := exists_valueText_eq_cons (h v List.mem_cons_self) s (d + 1)
    have hskip : skip (s.newline (d + 1) ++ (valueText s (d + 1) v ++
        (elementsText s (d + 1) vs ++ (s.newline d ++ ']' :: rest)))) =
        valueText s (d + 1) v ++ (elementsText s (d + 1) vs ++ (s.newline d ++ ']' :: rest)) := by
      rw [skip_append (hs _), (hv v List.mem_cons_self).skip]
    rw [valueText_list_cons] at hfuel ⊢
    simp only [List.length_append, List.length_cons, List.length_nil] at hfuel
    simp only [List.append_assoc, List.cons_append, List.nil_append]
    rw [scanValue_bracket (by rw [ht]; rfl) hc hskip,
      scanElements_valueText hs hv (by rw [List.length_append]; omega)]
    rfl

theorem scanValue_frontText (hs : s.Spaced) {n : Nat} (hk : ∀ e ∈ es, ∃ t, e.1 = .text t)
    (hv : ∀ e ∈ es, ReadsBack s d depth e.2) (hn : (Table.keys es).Nodup)
    (hu : u.head? = some '"') (hfuel : 2 * (frontText s d es).length + n ≤ fuel) :
    ∃ left, n ≤ left ∧
      scanValue (depth + 1) (fuel + 1) ('\x7b' :: (s.newline d ++ (frontText s d es ++ u))) =
        (scanEntries depth left es u).map fun r => (.table r.1, r.2) := by
  have hnil : (Table.keys ([] ++ es)).Nodup := hn
  obtain ⟨left, hleft, hscan⟩ := scanEntries_through hs hk hv hnil hu hfuel
  have hskip : skip (s.newline d ++ (frontText s d es ++ u)) = frontText s d es ++ u := by
    rw [skip_append (hs d), skip_frontText_append hu]
  refine ⟨left, hleft, ?_⟩
  rw [List.nil_append] at hscan
  rw [scanValue_brace (head?_frontText_append hu) hskip, hscan]

theorem readsBack_table (hs : s.Spaced) (hn : (Table.keys es).Nodup)
    (hk : ∀ e ∈ es, ∃ t, e.1 = .text t) (h : ∀ e ∈ es, Readable depth e.2)
    (hv : ∀ e ∈ es, ReadsBack s (d + 1) depth e.2) : ReadsBack s d (depth + 1) (.table es) := by
  refine .of_succ (.table hn hk h) fun fuel rest hfuel _ => ?_
  rcases List.eq_nil_or_concat' es with rfl | ⟨front, ⟨k, v⟩, rfl⟩
  · rw [scanValue.eq_def]
    rfl
  · obtain ⟨hkfront, hklast⟩ := List.forall_mem_append.1 hk
    obtain ⟨hvfront, hvlast⟩ := List.forall_mem_append.1 hv
    obtain ⟨t, rfl⟩ : ∃ t, k = .text t := hklast _ List.mem_cons_self
    have hlast : ReadsBack s (d + 1) depth v := hvlast _ List.mem_cons_self
    have hkey : Key.text t ∉ Table.keys front := Table.not_mem_keys_of_nodup hn
    have hnfront : (Table.keys front).Nodup := by
      rw [Table.keys, List.map_append] at hn
      exact hn.sublist (List.sublist_append_left _ _)
    have hlen : (valueText s (d + 1) v).length < (entryText s (d + 1) (.text t, v)).length :=
      length_valueText_lt s (d + 1) (.text t, v)
    rw [valueText_table] at hfuel ⊢
    simp only [entriesText_nil, List.append_assoc, List.cons_append, List.nil_append]
    simp only [List.length_append, List.length_cons] at hfuel
    have hbound : 2 * (frontText s (d + 1) front).length +
        (2 * (valueText s (d + 1) v).length + 1) ≤ fuel := by omega
    obtain ⟨left, hleft, hscan⟩ := scanValue_frontText
      (u := entryText s (d + 1) (.text t, v) ++ (s.newline d ++ '\x7d' :: rest))
      hs hkfront hvfront hnfront rfl hbound
    obtain ⟨left, rfl⟩ : ∃ f, left = f + 1 := ⟨left - 1, by omega⟩
    rw [hscan, scanEntries_brace hs hlast hkey (by omega)]
    rfl

/-- What is written of a value that can be read is read back. -/
theorem readsBack (hs : s.Spaced) (h : Readable depth v) (d : Nat) : ReadsBack s d depth v := by
  induction h generalizing d with
  | null =>
    exact .of_succ .null fun _ _ _ _ => scanValue_named (by decide) (by decide) (by decide) rfl
  | bool b =>
    refine .of_succ (.bool b) fun _ _ _ _ => ?_
    cases b <;> exact scanValue_named (by decide) (by decide) (by decide) rfl
  | int hi => exact .of_succ (.int hi) fun _ _ _ hrest => scanValue_ofInt hi hrest
  | text t =>
    refine .of_succ (.text t) fun fuel rest _ _ => ?_
    have hscan := scanString_stringText s.ascii (stringText s.ascii t ++ rest) t rest
    rw [valueText_text, scanValue.eq_def]
    simp only [stringText, List.cons_append, List.append_assoc, List.nil_append, if_true] at hscan ⊢
    rw [hscan, Except.map, Value.ofPoints_ofText]
  | list h ih => exact readsBack_list hs h fun v hv => ih v hv (d + 1)
  | table hn hk h ih => exact readsBack_table hs hn hk h fun e he => ih e he (d + 1)

theorem read_shown_append (hs : s.Spaced) (h : Readable depth v)
    (hg : ∀ c ∈ g, isSpace c = true) : read depth (shown s v ++ g) = .ok v := by
  have hstop : Stops g := by
    have := stops_append hg stops_nil
    rwa [List.append_nil] at this
  have hfuel : 2 * (valueText s 0 v).length ≤ 2 * (shown s v ++ g).length + 2 := by
    have hshown : shown s v = valueText s 0 v := rfl
    rw [List.length_append, hshown]
    omega
  have hscan := (readsBack hs h 0).scan _ g hfuel hstop
  obtain ⟨c, t, ht, hc, -, hb⟩ := exists_valueText_eq_cons h s 0
  change shown s v = c :: t at ht
  change scanValue depth _ (shown s v ++ g) = _ at hscan
  have hhead : (shown s v ++ g).head? ≠ some '\ufeff' := by
    rw [ht]
    exact fun he => hb (Option.some.inj he)
  have hskip : skip (shown s v ++ g) = shown s v ++ g := skip_of_head? (by rw [ht]; rfl) hc
  have hend : skip g = [] := List.dropWhile_eq_nil_iff.2 hg
  rw [read, scanDocument, if_neg hhead, hskip, hscan]
  simp only [hend]
  rfl

theorem read_shown (hs : s.Spaced) (h : Readable depth v) :
    read depth (shown s v) = .ok v := by
  have hread := read_shown_append (g := []) hs h nofun
  rwa [List.append_nil] at hread

/-! ### What can be written -/

theorem obstacle?_of_readable (h : Readable depth v) : obstacle? v = none := by
  have helements : ∀ vs : List Value, (∀ v ∈ vs, obstacle? v = none) →
      elementsObstacle? vs = none := by
    intro vs h
    induction vs with
    | nil => rfl
    | cons v vs ih =>
      rw [List.forall_mem_cons] at h
      rw [elementsObstacle?, h.1, ih h.2, Option.none_or]
  have hentries : ∀ es : Table, (∀ e ∈ es, ∃ t, e.1 = .text t) →
      (∀ e ∈ es, obstacle? e.2 = none) → entriesObstacle? es = none := by
    intro es hk h
    induction es with
    | nil => rfl
    | cons e es ih =>
      rw [List.forall_mem_cons] at hk h
      obtain ⟨t, ht⟩ := hk.1
      rw [entriesObstacle?, h.1, ht, ih hk.2 h.2]
      rfl
  induction h with
  | null | bool _ | text _ => rfl
  | int hi => rw [obstacle?, if_pos hi]
  | list _ ih => exact helements _ ih
  | table _ hk _ ih => exact hentries _ hk ih

/-- No half stands in a value that can be read back, so that nothing of it is escaped as one. -/
theorem valueIn_raw_of_readable (h : Readable depth v) (s : Style) (d : Nat) :
    valueIn .raw s d v = CodePoints.ofText (valueText s d v) := by
  have helements : ∀ (d : Nat) (vs : List Value),
      (∀ v ∈ vs, valueIn .raw s d v = CodePoints.ofText (valueText s d v)) →
        elementsIn .raw s d vs = CodePoints.ofText (elementsText s d vs) := by
    intro d vs h
    induction vs with
    | nil => rfl
    | cons v vs ih =>
      rw [List.forall_mem_cons] at h
      rw [elementsIn, h.1, ih h.2, elementsText_cons, CodePoints.ofText_append,
        CodePoints.ofText_append]
      rfl
  have hentries : ∀ (d : Nat) (es : Table), (∀ e ∈ es, ∃ t, e.1 = .text t) →
      (∀ e ∈ es, valueIn .raw s d e.2 = CodePoints.ofText (valueText s d e.2)) →
        entriesIn .raw s d es = CodePoints.ofText (entriesText s d es) := by
    intro d es hk h
    induction es with
    | nil => rfl
    | cons e es ih =>
      rw [List.forall_mem_cons] at hk h
      obtain ⟨k, v⟩ := e
      obtain ⟨t, rfl⟩ : ∃ t, k = .text t := hk.1
      rw [entriesIn, h.1, ih hk.2 h.2, entriesText_cons]
      simp only [CodePoints.ofText_append]
      rfl
  induction h generalizing d with
  | null | int _ | text _ => rfl
  | bool b => cases b <;> rfl
  | @list _ vs _ ih =>
    cases vs with
    | nil => rfl
    | cons v vs =>
      rw [List.forall_mem_cons] at ih
      rw [valueIn, ih.1, helements _ vs fun w hw => ih.2 w hw _, valueText_list_cons]
      simp only [CodePoints.ofText_append]
      rfl
  | @table _ es _ hk _ ih =>
    cases es with
    | nil => rfl
    | cons e es =>
      rw [List.forall_mem_cons] at ih hk
      obtain ⟨k, v⟩ := e
      obtain ⟨t, rfl⟩ : ∃ t, k = .text t := hk.1
      rw [valueIn, ih.1, hentries _ es hk.2 fun e he => ih.2 e he _, valueText_table_cons]
      simp only [CodePoints.ofText_append]
      rfl

theorem write_of_readable (h : Readable depth v) (hs : s.obstacle? = none) :
    write s v = .ok (CodePoints.ofText (shown s v)) := by
  have hpoints : points s v = CodePoints.ofText (shown s v) := by
    unfold points
    split
    · rfl
    · exact valueIn_raw_of_readable h s 0
  rw [write, hs, obstacle?_of_readable h, hpoints]
  rfl

end Json

end ChangeFeed
