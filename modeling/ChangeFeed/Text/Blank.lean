import ChangeFeed.Text.CodeRange

/-!
Blanks: the characters that separate words and that are stripped from the ends of a text.

The control characters 0x1c to 0x1f count as blanks; the zero width space U+200B does not.
-/

namespace ChangeFeed.Text

/-- The blanks above 127. -/
def blankRanges : List (Nat × Nat) := [
  (0x85, 0x85), (0xa0, 0xa0), (0x1680, 0x1680), (0x2000, 0x200a), (0x2028, 0x2029),
  (0x202f, 0x202f), (0x205f, 0x205f), (0x3000, 0x3000)]

/-- Whether a character is a blank. -/
def isBlank (c : Char) : Bool :=
  if c.toNat < 128 then
    c.toNat == 32 || (9 ≤ c.toNat && c.toNat ≤ 13) || (28 ≤ c.toNat && c.toNat ≤ 31)
  else inRanges blankRanges c

/-- Every character that core counts as white space is a blank. -/
theorem isBlank_of_isWhitespace {c : Char} (h : c.isWhitespace = true) : isBlank c = true := by
  simp only [Char.isWhitespace, Bool.or_eq_true, decide_eq_true_eq] at h
  rcases h with ((rfl | rfl) | rfl) | rfl <;> decide

/-- A text without the blanks at its start. -/
def stripStart (t : Text) : Text := t.dropWhile isBlank

/-- A text without the blanks at its end. -/
def stripEnd (t : Text) : Text := dropEndWhile isBlank t

/-- A text without the blanks at both ends. -/
def strip (t : Text) : Text := stripEnd (stripStart t)

/-- Whether a text holds nothing but blanks. -/
def isAllBlank (t : Text) : Bool := t.all isBlank

/-- The pieces of a text between characters that satisfy `p`, without the empty ones. -/
def tokens (p : Char → Bool) (t : Text) : List Text :=
  (t.splitOnP p).filter (· ≠ [])

/-- The words of a text: its longest runs without blanks. -/
def words (t : Text) : List Text := tokens isBlank t

end ChangeFeed.Text
