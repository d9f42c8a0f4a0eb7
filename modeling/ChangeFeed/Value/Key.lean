import ChangeFeed.Calendar.Moment
import ChangeFeed.Decimal.Binary64
import ChangeFeed.Text.CodePoint

/-!
Keys of tables.

Almost every key is a text. Data files may also use the other scalars as keys; a key that is no text
is one that no setting has.
-/

namespace ChangeFeed

/-- The key of an entry of a table: a scalar, and nearly always a text. -/
inductive Key where
  | null
  | bool (b : Bool)
  | int (n : Int)
  | real (x : Binary64)
  | moment (m : Moment)
  | text (t : Text)
  /-- A text in which halves of characters stand alone. -/
  | broken (t : BrokenText)
  deriving DecidableEq, Repr, Inhabited

instance : Coe Text Key := ⟨.text⟩

instance : Coe String Key := ⟨fun s => .text s.toList⟩

namespace Key

/-- The key that is a text of code points. -/
def ofPoints (ps : CodePoints) : Key :=
  if h : ps.isBroken then .broken ⟨ps, h⟩ else .text ps.chars

@[simp]
theorem ofPoints_ofText (t : Text) : ofPoints (CodePoints.ofText t) = .text t := by
  have h : ¬(CodePoints.ofText t).isBroken := by simp
  rw [ofPoints, dif_neg h, CodePoints.chars_ofText]

/-- The text of a key that is one. -/
def text? : Key → Option Text
  | text t => some t
  | _ => none

/-- The texts among some keys. -/
def texts (ks : List Key) : List Text := ks.filterMap text?

@[simp]
theorem texts_map_text (ts : List Text) : texts (ts.map .text) = ts := by
  induction ts with
  | nil => rfl
  | cons t ts ih => simpa [texts, text?] using ih

end Key

end ChangeFeed
