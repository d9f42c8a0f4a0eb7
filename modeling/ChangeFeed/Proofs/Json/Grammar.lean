import ChangeFeed.Proofs.Json.Characters
import ChangeFeed.Proofs.Json.Lines

/-!
# What JSON is

`Spells digits depth t v` says that the text `t` stands for the value `v` in JSON, that its whole
numbers have at most `digits` digits, and that at most `depth` containers stand inside each other.
How a reader finds its way through the text is left open. As for the reader, the names of the values
that are no finite numbers count as JSON, and of two entries with the same key the later one.

The only control characters in a text of JSON are those that are space (`Spells.isTidy`, by
induction on what the text is made of), so of ASCII characters without newlines and carriage
returns it is one line (`IsTidy.isUncut`).
-/

namespace ChangeFeed.Json

variable {digits depth : Nat} {c : Char} {t u : Text} {v : Value}

/-- Space between two tokens. -/
structure Gap where
  text : Text
  spaced : ∀ c ∈ text, isSpace c = true

/-! ### Numbers -/

/-- A run of digits. -/
def IsDigits (t : Text) : Prop := t ≠ [] ∧ ∀ c ∈ t, Text.isAsciiDigit c = true

/-- The exponent of a number. -/
structure Exponent where
  letter : Char
  isLetter : letter = 'e' ∨ letter = 'E'
  sign : Text
  isSign : sign = [] ∨ sign = ['+'] ∨ sign = ['-']
  digits : Text
  isDigits : IsDigits digits

namespace Exponent

def text (e : Exponent) : Text := e.letter :: (e.sign ++ e.digits)

/-- The power of ten that an exponent stands for. -/
def power (e : Exponent) : Int :=
  if e.sign = ['-'] then -(digitsValue e.digits : Int) else digitsValue e.digits

end Exponent

/-- A number as it is written; there are no zeros in front. -/
structure Number where
  negative : Bool
  whole : Text
  isWhole : whole = ['0'] ∨ IsDigits whole ∧ whole.head? ≠ some '0'
  /-- The digits behind the point. -/
  fraction : Option Text
  isFraction : ∀ ds ∈ fraction, IsDigits ds
  exponent : Option Exponent

namespace Number

/-- The point and what stands behind it, without the exponent. -/
def fractionText (n : Number) : Text := n.fraction.elim [] ('.' :: ·)

def exponentText (n : Number) : Text := n.exponent.elim [] Exponent.text

/-- The text of a number, without its sign. -/
def unsignedText (n : Number) : Text := n.whole ++ (n.fractionText ++ n.exponentText)

def text (n : Number) : Text := if n.negative then '-' :: n.unsignedText else n.unsignedText

/-- Whether a number is written as a whole one. -/
def isInteger (n : Number) : Bool := n.fraction.isNone && n.exponent.isNone

/-- What a number stands for. -/
def value (n : Number) : Value :=
  let decimals := n.fraction.getD []
  if n.isInteger then
    .int (if n.negative then -(digitsValue n.whole : Int) else digitsValue n.whole)
  else .real (.ofDecimal n.negative (digitsValue (n.whole ++ decimals))
    (n.exponent.elim 0 Exponent.power - decimals.length))

end Number

/-! ### Strings and values -/

/-- What stands between the quotes of a string, and the codes of its characters. -/
inductive SpellsCodes : Text → List Nat → Prop
  | nil : SpellsCodes [] []
  | plain {c : Char} {t : Text} {ns : List Nat} (quote : c ≠ '"') (backslash : c ≠ '\\')
    (control : 0x20 ≤ c.toNat) : SpellsCodes t ns → SpellsCodes (c :: t) (c.toNat :: ns)
  | short {x c : Char} {t : Text} {ns : List Nat} (escape : shortEscape? x = some c) :
    SpellsCodes t ns → SpellsCodes ('\\' :: x :: t) (c.toNat :: ns)
  | code {h₁ h₂ h₃ h₄ : Char} {n : Nat} {t : Text} {ns : List Nat}
    (escape : quad? h₁ h₂ h₃ h₄ = some n) :
    SpellsCodes t ns → SpellsCodes ('\\' :: 'u' :: h₁ :: h₂ :: h₃ :: h₄ :: t) (n :: ns)

/-- A value in a container, with the space around it. -/
structure Element where
  before : Gap
  text : Text
  value : Value
  after : Gap

/-- The text of an element with the space around it. -/
def Element.padded (e : Element) : Text := e.before.text ++ (e.text ++ e.after.text)

/-- An entry of a table, with the space around its key. -/
structure Entry where
  before : Gap
  keyText : Text
  codes : List Nat
  spells : SpellsCodes keyText codes
  after : Gap
  element : Element

namespace Entry

/-- The text of an entry with the space around it. -/
def padded (e : Entry) : Text :=
  e.before.text ++ '"' :: (e.keyText ++ '"' :: (e.after.text ++ ':' :: e.element.padded))

/-- A table with an entry put into it. -/
def put (es : Table) (e : Entry) : Table :=
  Table.set (.ofPoints (pointsOfCodes e.codes)) e.element.value es

end Entry

/-- The texts of JSON and the values that they stand for. -/
inductive Spells (digits : Nat) : Nat → Text → Value → Prop
  | named {depth : Nat} {n : String × Value} : n ∈ named → Spells digits depth n.1.toList n.2
  | number {depth : Nat} (n : Number) : (n.isInteger = true → n.whole.length ≤ digits) →
    Spells digits depth n.text n.value
  | text {depth : Nat} {t : Text} {ns : List Nat} : SpellsCodes t ns →
    Spells digits depth ('"' :: (t ++ ['"'])) (.ofPoints (pointsOfCodes ns))
  | emptyList {depth : Nat} (g : Gap) :
    Spells digits (depth + 1) ('[' :: (g.text ++ [']'])) (.list [])
  | list {depth : Nat} {es : List Element} : es ≠ [] →
    (∀ e ∈ es, Spells digits depth e.text e.value) →
    Spells digits (depth + 1) ('[' :: (Text.join "," (es.map Element.padded) ++ [']']))
      (.list (es.map Element.value))
  | emptyTable {depth : Nat} (g : Gap) :
    Spells digits (depth + 1) ('\x7b' :: (g.text ++ ['\x7d'])) (.table [])
  | table {depth : Nat} {es : List Entry} : es ≠ [] →
    (∀ e ∈ es, Spells digits depth e.element.text e.element.value) →
    Spells digits (depth + 1) ('\x7b' :: (Text.join "," (es.map Entry.padded) ++ ['\x7d']))
      (.table (es.foldl Entry.put []))

/-! ### Characters -/

/-- A class of characters without control characters, which can be tried one by one. -/
theorem le_toNat_of_class {p : Char → Bool} (h : ∀ n < 0x20, p (Char.ofNat n) = false)
    (hc : p c = true) : 0x20 ≤ c.toNat := by
  by_contra hlt
  have hfalse := h c.toNat (Nat.lt_of_not_le hlt)
  rw [Char.ofNat_toNat, hc] at hfalse
  cases hfalse

theorem IsDigits.isPlain (h : IsDigits t) : IsPlain t := fun c hc =>
  le_toNat_of_class (by decide) (h.2 c hc)

theorem Exponent.isPlain_text (e : Exponent) : IsPlain e.text := by
  have hletter : 0x20 ≤ e.letter.toNat := by
    rcases e.isLetter with h | h
    · rw [h]; decide
    · rw [h]; decide
  have hsign : IsPlain e.sign := by
    rcases e.isSign with h | h | h
    · rw [h]; decide
    · rw [h]; decide
    · rw [h]; decide
  exact isPlain_cons.2 ⟨hletter, isPlain_append.2 ⟨hsign, e.isDigits.isPlain⟩⟩

namespace Number

theorem isPlain_fractionText (n : Number) : IsPlain n.fractionText := by
  rw [fractionText]
  cases h : n.fraction with
  | none => exact isPlain_nil
  | some ds => exact isPlain_cons.2 ⟨by decide, (n.isFraction ds h).isPlain⟩

theorem isPlain_exponentText (n : Number) : IsPlain n.exponentText := by
  rw [exponentText]
  cases n.exponent with
  | none => exact isPlain_nil
  | some e => exact e.isPlain_text

theorem isPlain_text (n : Number) : IsPlain n.text := by
  have hwhole : IsPlain n.whole := by
    rcases n.isWhole with h | ⟨h, -⟩
    · rw [h]; decide
    · exact h.isPlain
  have hunsigned : IsPlain n.unsignedText := isPlain_append.2
    ⟨hwhole, isPlain_append.2 ⟨n.isPlain_fractionText, n.isPlain_exponentText⟩⟩
  rw [text]
  split
  · exact isPlain_cons.2 ⟨by decide, hunsigned⟩
  · exact hunsigned

end Number

theorem isSome_hexValue?_of_quad? {h₁ h₂ h₃ h₄ : Char} {n : Nat} (h : quad? h₁ h₂ h₃ h₄ = some n) :
    ∀ c ∈ [h₁, h₂, h₃, h₄], (Text.hexValue? c).isSome = true := by
  simp only [quad?, Option.bind_eq_bind, Option.bind_eq_some_iff] at h
  obtain ⟨_, ha, _, hb, _, hc, _, hd, -⟩ := h
  simp [ha, hb, hc, hd]

theorem IsPlain.spellsCodes (h : IsPlain t) (hquote : '"' ∉ t) (hbackslash : '\\' ∉ t) :
    SpellsCodes t (t.map Char.toNat) := by
  induction t with
  | nil => exact .nil
  | cons c t ih =>
    obtain ⟨hc, ht⟩ := isPlain_cons.1 h
    rw [List.mem_cons, not_or] at hquote hbackslash
    exact .plain (Ne.symm hquote.1) (Ne.symm hbackslash.1) hc (ih ht hquote.2 hbackslash.2)

theorem SpellsCodes.isPlain {ns : List Nat} (h : SpellsCodes t ns) : IsPlain t := by
  induction h with
  | nil => exact isPlain_nil
  | plain _ _ control _ ih => exact isPlain_cons.2 ⟨control, ih⟩
  | @short x c t ns escape _ ih =>
    have hx : 0x20 ≤ x.toNat :=
      le_toNat_of_class (p := fun x => (shortEscape? x).isSome) (by decide) (by rw [escape]; rfl)
    exact isPlain_cons.2 ⟨by decide, isPlain_cons.2 ⟨hx, ih⟩⟩
  | @code h₁ h₂ h₃ h₄ n t ns escape _ ih =>
    have hdigits : IsPlain [h₁, h₂, h₃, h₄] := fun c hc =>
      le_toNat_of_class (p := fun c => (Text.hexValue? c).isSome) (by decide)
        (isSome_hexValue?_of_quad? escape c hc)
    have hescape : IsPlain ['\\', 'u'] := by decide
    exact isPlain_append.2 ⟨isPlain_append.2 ⟨hescape, hdigits⟩, ih⟩

/-- A text whose control characters are space. -/
def IsTidy (t : Text) : Prop := ∀ c ∈ t, 0x20 ≤ c.toNat ∨ isSpace c = true

theorem IsPlain.isTidy (h : IsPlain t) : IsTidy t := fun c hc => .inl (h c hc)

theorem isTidy_append : IsTidy (t ++ u) ↔ IsTidy t ∧ IsTidy u := List.forall_mem_append

theorem isTidy_cons : IsTidy (c :: t) ↔ (0x20 ≤ c.toNat ∨ isSpace c = true) ∧ IsTidy t :=
  List.forall_mem_cons

theorem isTidy_join {sep : Text} {ts : List Text} (hsep : IsPlain sep) (h : ∀ t ∈ ts, IsTidy t) :
    IsTidy (Text.join sep ts) := by
  induction ts with
  | nil => exact isPlain_nil.isTidy
  | cons t ts ih =>
    obtain ⟨ht, hts⟩ := List.forall_mem_cons.1 h
    rw [Text.join_cons, isTidy_append]
    refine ⟨ht, ?_⟩
    split
    · exact isPlain_nil.isTidy
    · exact isTidy_append.2 ⟨hsep.isTidy, ih hts⟩

theorem Gap.isTidy (g : Gap) : IsTidy g.text := fun c hc => .inr (g.spaced c hc)

theorem Element.isTidy {e : Element} (h : IsTidy e.text) : IsTidy e.padded :=
  isTidy_append.2 ⟨e.before.isTidy, isTidy_append.2 ⟨h, e.after.isTidy⟩⟩

theorem Entry.isTidy {e : Entry} (h : IsTidy e.element.text) : IsTidy e.padded := by
  refine isTidy_append.2 ⟨e.before.isTidy, isTidy_cons.2 ⟨by decide, ?_⟩⟩
  refine isTidy_append.2 ⟨e.spells.isPlain.isTidy, isTidy_cons.2 ⟨by decide, ?_⟩⟩
  exact isTidy_append.2 ⟨e.after.isTidy, isTidy_cons.2 ⟨by decide, Element.isTidy h⟩⟩

theorem Spells.isTidy (h : Spells digits depth t v) : IsTidy t := by
  have hclosed : ∀ {o c : Char} {u : Text}, 0x20 ≤ o.toNat → 0x20 ≤ c.toNat → IsTidy u →
      IsTidy (o :: (u ++ [c])) := fun ho hc hu =>
    isTidy_cons.2 ⟨.inl ho, isTidy_append.2 ⟨hu, isTidy_cons.2 ⟨.inl hc, isPlain_nil.isTidy⟩⟩⟩
  induction h with
  | @named _ n hn =>
    have hnames : ∀ n ∈ Json.named, IsPlain n.1.toList := by decide
    exact (hnames n hn).isTidy
  | number n => exact n.isPlain_text.isTidy
  | text h => exact hclosed (by decide) (by decide) h.isPlain.isTidy
  | emptyList g => exact hclosed (by decide) (by decide) g.isTidy
  | list _ _ ih =>
    refine hclosed (by decide) (by decide) (isTidy_join (by decide) ?_)
    exact List.forall_mem_map.2 fun e he => Element.isTidy (ih e he)
  | emptyTable g => exact hclosed (by decide) (by decide) g.isTidy
  | table _ _ ih =>
    refine hclosed (by decide) (by decide) (isTidy_join (by decide) ?_)
    exact List.forall_mem_map.2 fun e he => Entry.isTidy (ih e he)

theorem IsTidy.isUncut (h : IsTidy t) (hline : Text.IsAsciiLine t) : Text.IsUncut t := by
  intro c hc
  obtain ⟨hlt, hn, hr⟩ := hline c hc
  rw [← Bool.not_eq_true]
  intro hend
  rcases h c hc with hle | hspace
  · have hbreak := mem_breaks_iff.2 ⟨hend, hle⟩
    simp only [breaks, List.mem_cons, List.not_mem_nil, or_false] at hbreak
    rcases hbreak with rfl | rfl | rfl <;> exact absurd hlt (by decide)
  · simp only [isSpace, Bool.or_eq_true, beq_iff_eq] at hspace
    rcases hspace with ((rfl | rfl) | rfl) | rfl
    · exact absurd hend (by decide)
    · exact absurd hend (by decide)
    · exact hn rfl
    · exact hr rfl

end ChangeFeed.Json
