import ChangeFeed.Text.Blank
import ChangeFeed.Text.Quoted

/-!
Texts in which halves of characters stand alone.

An escape by a code can tell of one half of a character beyond 16 bits, and nothing says that the
other half follows. Such a half is a code point, but no character: it is kept as it is, it is
escaped in messages, and it cannot be encoded. A text has none of them.
-/

namespace ChangeFeed

/-- A character, or a half of one. -/
inductive CodePoint where
  | char (c : Char)
  /-- The half with the code `0xd800 + n`. -/
  | half (n : Fin 0x800)
  deriving DecidableEq, Repr

namespace CodePoint

/-- The code of the first half of a character. -/
def firstHalf : Nat := 0xd800

/-- Whether a code point is a half of a character. -/
def isHalf : CodePoint → Bool
  | char _ => false
  | half _ => true

/-- The character that a code point is. -/
def char? : CodePoint → Option Char
  | char c => some c
  | half _ => none

/-- The code point with a code; a code that no code point has stands for the one with code zero. -/
def ofCode (n : Nat) : CodePoint :=
  if h : firstHalf ≤ n ∧ n < firstHalf + 0x800 then half ⟨n - firstHalf, by omega⟩
  else char (Char.ofNat n)

/-- A code point where halves are escaped. -/
def escaped : CodePoint → Text
  | char c => [c]
  | half n => Text.codeEscape (firstHalf + n)

end CodePoint

/-- A text of code points. -/
abbrev CodePoints := List CodePoint

namespace CodePoints

/-- A text, character by character. -/
def ofText (t : Text) : CodePoints := t.map .char

instance : Coe Text CodePoints := ⟨ofText⟩

instance : Coe String CodePoints := ⟨fun s => ofText s.toList⟩

/-- Whether a half stands in a text. -/
def isBroken (ps : CodePoints) : Bool := ps.any CodePoint.isHalf

/-- The characters of a text. -/
def chars (ps : CodePoints) : Text := ps.filterMap CodePoint.char?

/-- A text with its halves escaped. -/
def escaped (ps : CodePoints) : Text := ps.flatMap CodePoint.escaped

/-- A text between quotes, with its halves and every character that cannot be printed escaped. -/
def quoted (ps : CodePoints) : Text :=
  let q := Text.quoteFor ps.chars
  let inside : CodePoint → Text
    | .char c => Text.quotedChar q c
    | p => p.escaped
  q :: ps.flatMap inside ++ [q]

/-- A text without the blanks at its ends. -/
def strip (ps : CodePoints) : CodePoints :=
  let isBlank (p : CodePoint) : Bool := p.char?.any Text.isBlank
  ((ps.dropWhile isBlank).reverse.dropWhile isBlank).reverse

/-- Why a text cannot be encoded: halves that stand at a position, one behind the other. -/
structure Unencodable where
  position : Nat
  first : Fin 0x800
  /-- How many halves follow the first one at once. -/
  more : Nat
  deriving DecidableEq, Repr

/-- The text of the error. -/
def Unencodable.message (p : Unencodable) : Text :=
  let start := Text.ofNat p.position
  "'utf-8' codec can't encode " ++
    (if p.more = 0 then
      "character '" ++ (CodePoint.half p.first).escaped ++ "' in position " ++ start
    else "characters in position " ++ start ++ "-" ++ Text.ofNat (p.position + p.more)) ++
    ": surrogates not allowed"

/-- The characters of a text that starts at a position, if it has no half; else the first halves. -/
def encodeFrom (position : Nat) : CodePoints → Except Unencodable Text
  | [] => .ok []
  | .char c :: ps => (encodeFrom (position + 1) ps).map (c :: ·)
  | .half n :: ps => .error ⟨position, n, (ps.takeWhile CodePoint.isHalf).length⟩

/-- The characters of a text, if it has no half; else the first halves. -/
def encode (ps : CodePoints) : Except Unencodable Text := encodeFrom 0 ps

@[simp]
theorem chars_ofText (t : Text) : (ofText t).chars = t := by
  induction t with
  | nil => rfl
  | cons c t ih => exact congrArg (c :: ·) ih

theorem ofText_inj {t u : Text} : ofText t = ofText u ↔ t = u := by
  constructor
  · intro h
    rw [← chars_ofText t, h, chars_ofText]
  · rintro rfl
    rfl

@[simp]
theorem escaped_ofText (t : Text) : (ofText t).escaped = t := by
  induction t with
  | nil => rfl
  | cons c t ih => exact congrArg (c :: ·) ih

@[simp]
theorem ofText_append (t u : Text) : ofText (t ++ u) = ofText t ++ ofText u := List.map_append

@[simp]
theorem isBroken_append (ps qs : CodePoints) :
    isBroken (ps ++ qs) = (isBroken ps || isBroken qs) := List.any_append

@[simp]
theorem isBroken_ofText (t : Text) : (ofText t).isBroken = false := by
  induction t with
  | nil => rfl
  | cons c t ih => exact ih

theorem ofText_chars {ps : CodePoints} (h : ps.isBroken = false) : ofText ps.chars = ps := by
  induction ps with
  | nil => rfl
  | cons p ps ih =>
    cases p with
    | char c => exact congrArg (CodePoint.char c :: ·) (ih h)
    | half n => cases h

theorem encodeFrom_of_not_isBroken {ps : CodePoints} (h : ps.isBroken = false) (position : Nat) :
    encodeFrom position ps = .ok ps.chars := by
  induction ps generalizing position with
  | nil => rfl
  | cons p ps ih =>
    cases p with
    | char c =>
      rw [encodeFrom, ih h]
      rfl
    | half n => cases h

/-- A text in which a half stands cannot be encoded. -/
theorem exists_encodeFrom_eq_error {ps : CodePoints} (h : ps.isBroken = true) (position : Nat) :
    ∃ p, encodeFrom position ps = .error p := by
  induction ps generalizing position with
  | nil => cases h
  | cons p ps ih =>
    cases p with
    | char c =>
      obtain ⟨p, hp⟩ := ih h (position + 1)
      rw [encodeFrom, hp]
      exact ⟨p, rfl⟩
    | half n => exact ⟨_, rfl⟩

/-- A text is encoded as it is, and one in which a half stands is not. -/
theorem encode_eq_ok_iff {ps : CodePoints} {t : Text} : ps.encode = .ok t ↔ ps = ofText t := by
  cases h : ps.isBroken with
  | false =>
    rw [encode, encodeFrom_of_not_isBroken h, Except.ok.injEq]
    constructor
    · rintro rfl
      exact (ofText_chars h).symm
    · rintro rfl
      exact chars_ofText t
  | true =>
    obtain ⟨p, hp⟩ := exists_encodeFrom_eq_error h 0
    rw [encode, hp]
    constructor
    · nofun
    · rintro rfl
      rw [isBroken_ofText] at h
      cases h

@[simp]
theorem encode_ofText (t : Text) : (ofText t).encode = .ok t := encode_eq_ok_iff.2 rfl

end CodePoints

/-- A text in which a half stands. -/
structure BrokenText where
  points : CodePoints
  isBroken : points.isBroken = true
  deriving DecidableEq, Repr

/-- What keeps a text in which a half stands from being encoded. -/
def BrokenText.problem (t : BrokenText) : CodePoints.Unencodable :=
  match h : t.points.encode with
  | .error p => p
  | .ok _ => absurd (CodePoints.encode_eq_ok_iff.1 h) fun hp => by
    have := t.isBroken
    rw [hp, CodePoints.isBroken_ofText] at this
    cases this

end ChangeFeed
