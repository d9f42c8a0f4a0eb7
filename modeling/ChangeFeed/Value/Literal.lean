import ChangeFeed.Decimal.Shortest
import ChangeFeed.Text.Numeral
import ChangeFeed.Text.Quoted
import ChangeFeed.Value.Basic

/-!
Values in messages.

A value is shown as a literal: a text in quotes, a list in brackets, a table in braces. On its own,
a text is displayed as it stands. A value with a number that is too large to be written cannot be
shown.
-/

namespace ChangeFeed

/-- A key as a literal. -/
def Key.literal : Key → Text
  | null => "None"
  | bool true => "True"
  | bool false => "False"
  | int n => Text.ofInt n
  | real x => x.toText
  | moment m => m.literal
  | text t => Text.quoted t
  | broken t => t.points.quoted

/-- Whether a key is not a number that is too large to be shown. -/
def Key.fits : Key → Bool
  | int n => Numeral.fits n
  | _ => true

namespace Value

mutual

/-- A value as a literal. -/
def literal : Value → Text
  | null => "None"
  | bool true => "True"
  | bool false => "False"
  | int n => Text.ofInt n
  | real x => x.toText
  | moment m => m.literal
  | text t => Text.quoted t
  | broken t => t.points.quoted
  | list vs => '[' :: literals vs ++ [']']
  | table es => '{' :: entryLiterals es ++ ['}']

/-- Values as literals with commas between them. -/
def literals : List Value → Text
  | [] => []
  | [v] => literal v
  | v :: w :: vs => literal v ++ ", " ++ literals (w :: vs)

/-- Entries as literals with commas between them. -/
def entryLiterals : List (Key × Value) → Text
  | [] => []
  | [(k, v)] => k.literal ++ ": " ++ literal v
  | (k, v) :: e :: es => k.literal ++ ": " ++ literal v ++ ", " ++ entryLiterals (e :: es)

end

/-- A value on its own: a text and a moment as they stand, anything else as a literal. -/
def points : Value → CodePoints
  | text t => .ofText t
  | broken t => t.points
  | moment m => .ofText m.toText
  | v => .ofText (literal v)

/-- A value on its own, with halves of characters escaped. -/
def display (v : Value) : Text := v.points.escaped

mutual

/-- Whether no number in a value is too large to be shown. -/
def fits : Value → Bool
  | int n => Numeral.fits n
  | list vs => allFit vs
  | table es => entriesFit es
  | _ => true

/-- Whether no number in a list of values is too large to be shown. -/
def allFit : List Value → Bool
  | [] => true
  | v :: vs => fits v && allFit vs

/-- Whether no number in entries is too large to be shown. -/
def entriesFit : List (Key × Value) → Bool
  | [] => true
  | (k, v) :: es => k.fits && (fits v && entriesFit es)

end

/-- The display of a value that can be shown. -/
def shown (v : Value) : Except Numeral.Problem Text :=
  if v.fits then .ok v.display else .error .tooLarge

@[simp]
theorem points_text (t : Text) : points (.text t) = CodePoints.ofText t := rfl

@[simp]
theorem display_text (t : Text) : display (.text t) = t := CodePoints.escaped_ofText t

@[simp]
theorem shown_text (t : Text) : shown (.text t) = .ok t := congrArg Except.ok (display_text t)

theorem points_ofPoints (ps : CodePoints) : (ofPoints ps).points = ps := by
  rw [ofPoints, Key.ofPoints]
  split
  · rfl
  · next h => exact CodePoints.ofText_chars (by simpa using h)

/-- A text of code points is told apart by them. -/
theorem ofPoints_inj {ps qs : CodePoints} : ofPoints ps = ofPoints qs ↔ ps = qs := by
  constructor
  · intro h
    rw [← points_ofPoints ps, h, points_ofPoints]
  · rintro rfl
    rfl

end Value

end ChangeFeed
