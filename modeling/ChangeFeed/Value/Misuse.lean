import ChangeFeed.Value.Literal
import ChangeFeed.Value.Quantity

/-!
Values used in a way that their kind does not allow.

Configuration files and the records of other programs may hold any kind of value anywhere. What asks
too much of a value is refused with the kind of the value, and nothing is assumed in its place. A
text in which halves of characters stand alone is refused where a text is asked for.
-/

namespace ChangeFeed

/-- What was asked of a value that its kind does not offer. -/
inductive Misuse where
  /-- A member, such as the look-up of a key. -/
  | noMember (kind member : Text)
  /-- To be the key of a group. -/
  | notKey (kind : Text)
  /-- To take a new value for a key. -/
  | notAssignable (kind : Text)
  /-- To have a position that is given by a value of this kind. -/
  | notPosition (kind : Text)
  /-- To have a character at a position that is given by a value of this kind. -/
  | notCharacterPosition (kind : Text)
  /-- To have a position that is too far away for any list. -/
  | hugePosition
  /-- To be a position that is too far away for any text. -/
  | hugeOffset
  /-- To have a position at which there is nothing. -/
  | noElement
  /-- To have a character where it has none. -/
  | noCharacter
  /-- To have an entry for a key that it does not have. -/
  | noEntry (key : Value)
  /-- To have elements or entries at all. -/
  | notSubscriptable (kind : Text)
  /-- To be gone through element by element. -/
  | notIterable (kind : Text)
  /-- To be taken apart into its elements. -/
  | notUnpacked (kind : Text)
  /-- To be taken apart into more elements than it has. -/
  | tooFew (wanted given : Nat)
  /-- To be taken apart into fewer elements than it has. -/
  | tooMany (wanted : Nat)
  /-- To be joined with texts, at the given position among them. -/
  | notJoined (position : Nat) (kind : Text)
  /-- To be the elements that are joined. -/
  | notJoinable
  /-- To be searched as a text. -/
  | notSearched (kind : Text)
  /-- To be a whole number. -/
  | notInteger (kind : Text)
  /-- To be a part of a path. -/
  | noPathPart (kind : Text)
  /-- To be a number in a message. -/
  | notNumber (kind : Text)
  /-- To be compared by a sign with a value of another kind. -/
  | notOrdered (sign left right : Text)
  /-- To tell how many characters are cut off. -/
  | notSliced
  /-- To tell how often something is repeated. -/
  | notCount (kind : Text)
  /-- To have one taken away. -/
  | notReduced (kind : Text)
  /-- To have one added. -/
  | notIncreased (kind : Text)
  /-- To be laid out in a way of its own. -/
  | noLayout (kind : Text)
  /-- To be looked for in a text. -/
  | notText (kind : Text)
  /-- To be a text that can be encoded. -/
  | unencodable (p : CodePoints.Unencodable)
  /-- To be the arguments of something that does not take them, as the message tells. -/
  | arguments (message : Text)
  deriving DecidableEq, Repr

namespace Misuse

/-- The kind of error, as reports name it. -/
def kind : Misuse → Text
  | noMember _ _ => "AttributeError"
  | hugePosition | noElement | noCharacter => "IndexError"
  | hugeOffset => "OverflowError"
  | noEntry _ => "KeyError"
  | tooFew _ _ | tooMany _ => "ValueError"
  | unencodable _ => "UnicodeEncodeError"
  | _ => "TypeError"

/-- The text of the error. -/
def message : Misuse → Text
  | noMember k member => "'" ++ k ++ "' object has no attribute '" ++ member ++ "'"
  | notKey k => "unhashable type: '" ++ k ++ "'"
  | notAssignable k => "'" ++ k ++ "' object does not support item assignment"
  | notPosition k => "list indices must be integers or slices, not " ++ k
  | notCharacterPosition k => "string indices must be integers, not '" ++ k ++ "'"
  | noElement => "list index out of range"
  | noCharacter => "string index out of range"
  | noEntry key => key.literal
  | hugeOffset => "Python int too large to convert to C ssize_t"
  | hugePosition => "cannot fit 'int' into an index-sized integer"
  | notSubscriptable k => "'" ++ k ++ "' object is not subscriptable"
  | notIterable k => "'" ++ k ++ "' object is not iterable"
  | notUnpacked k => "cannot unpack non-iterable " ++ k ++ " object"
  | tooFew wanted given =>
    "not enough values to unpack (expected " ++ Text.ofNat wanted ++ ", got " ++
      Text.ofNat given ++ ")"
  | tooMany wanted => "too many values to unpack (expected " ++ Text.ofNat wanted ++ ")"
  | notJoined position k =>
    "sequence item " ++ Text.ofNat position ++ ": expected str instance, " ++ k ++ " found"
  | notJoinable => "can only join an iterable"
  | notSearched k => "expected string or bytes-like object, got '" ++ k ++ "'"
  | notInteger k => "'" ++ k ++ "' object cannot be interpreted as an integer"
  | noPathPart k => "unsupported operand type(s) for /: 'PosixPath' and '" ++ k ++ "'"
  | notNumber k => "%d format: a real number is required, not " ++ k
  | notOrdered sign left right =>
    "'" ++ sign ++ "' not supported between instances of '" ++ left ++ "' and '" ++ right ++ "'"
  | notSliced => "slice indices must be integers or None or have an __index__ method"
  | notCount k => "can't multiply sequence by non-int of type '" ++ k ++ "'"
  | notReduced k => "unsupported operand type(s) for -: '" ++ k ++ "' and 'int'"
  | notIncreased k => "unsupported operand type(s) for +=: '" ++ k ++ "' and 'int'"
  | noLayout k => "unsupported format string passed to " ++ k ++ ".__format__"
  | notText k => "must be str, not " ++ k
  | unencodable p => p.message
  | arguments message => message

end Misuse

namespace Value

/-- The entries of a value that is asked for `member`, which only tables have. -/
def entriesFor (member : Text) : Value → Except Misuse Table
  | .table es => .ok es
  | v => .error (.noMember v.kindName member)

/-- The text that a value has to be to be asked for `member`, which only texts have. -/
def textFor (member : Text) : Value → Except Misuse Text
  | .text t => .ok t
  | .broken t => .error (.unencodable t.problem)
  | v => .error (.noMember v.kindName member)

/-- The text that a value has to be to be searched for words. -/
def searchedText : Value → Except Misuse Text
  | .text t => .ok t
  | .broken t => .error (.unencodable t.problem)
  | v => .error (.notSearched v.kindName)

/-- The text that a value has to be to be looked for in another text. -/
def soughtText : Value → Except Misuse Text
  | .text t => .ok t
  | .broken t => .error (.unencodable t.problem)
  | v => .error (.notText v.kindName)

/-- The whole number that a value has to be; a truth value counts as one. -/
def integer : Value → Except Misuse Int
  | .int n => .ok n
  | .bool b => .ok (if b then 1 else 0)
  | v => .error (.notInteger v.kindName)

/-- The elements of a value: those of a list, the characters of a text, the keys of a table. -/
def elements : Value → Except Misuse (List Value)
  | .list vs => .ok vs
  | .text t => .ok (t.map fun c => .text [c])
  | .broken t => .ok (t.points.map fun p => .ofPoints [p])
  | .table es => .ok (es.map fun e => e.1.toValue)
  | v => .error (.notIterable v.kindName)

/-- The two elements of a pair. -/
def unpackPair (v : Value) : Except Misuse (Value × Value) :=
  match v.elements with
  | .ok [a, b] => .ok (a, b)
  | .ok (_ :: _ :: _) => .error (.tooMany 2)
  | .ok vs => .error (.tooFew 2 vs.length)
  | .error _ => .error (.notUnpacked v.kindName)

/-- The element of a list at the position that a value gives; a negative one counts from the end. -/
def elementOf {α : Type} (xs : List α) : Value → Except Misuse α
  | .int n => nth xs n
  | .bool b => nth xs (if b then 1 else 0)
  | v => .error (.notPosition v.kindName)
where
  /-- The element at a position. -/
  nth (xs : List α) (n : Int) : Except Misuse α :=
    if n < -0x8000000000000000 ∨ 0x8000000000000000 ≤ n then .error .hugePosition
    else
      let n := if n < 0 then n + xs.length else n
      match (if 0 ≤ n then xs[n.toNat]? else none) with
      | some x => .ok x
      | none => .error .noElement

/-- What stands first in a value: an element, a character, or the entry of a table for zero. -/
def first : Value → Except Misuse Value
  | .list [] => .error .noElement
  | .list (v :: _) => .ok v
  | .text [] => .error .noCharacter
  | .text (c :: _) => .ok (.text [c])
  | .broken t => .ok (.ofPoints (t.points.take 1))
  | .table es => (Table.get? (.int 0) es).elim (.error (.noEntry (.int 0))) .ok
  | v => .error (.notSubscriptable v.kindName)

/-- The value of a key in a value that has to be a table. -/
def get? (key : Key) (v : Value) : Except Misuse (Option Value) :=
  (v.entriesFor "get").map (Table.get? key)

/-- The value of a key, or `default` if the table has none. -/
def getD (v : Value) (key : Key) (default : Value) : Except Misuse Value :=
  (v.get? key).map fun w => w.getD default

/-- The texts that are joined; every value has to be one. -/
def joinable (position : Nat) : List Value → Except Misuse (List Text)
  | [] => .ok []
  | .text t :: vs => (joinable (position + 1) vs).map (t :: ·)
  | .broken t :: _ => .error (.unencodable t.problem)
  | v :: _ => .error (.notJoined position v.kindName)

/-- The words of a command: its elements, which are to be joined. -/
def words (v : Value) : Except Misuse (List Text) :=
  match v.elements with
  | .ok vs => joinable 0 vs
  | .error _ => .error .notJoinable

/-- Whether two values are the same key: numbers of all kinds are if they are worth the same. -/
def sameKey (v w : Value) : Bool :=
  v == w || match v.quantity?, w.quantity? with
    | some a, some b => a.same b
    | _, _ => false

/-- Whether a value can be the key of a group. -/
def isKey (v : Value) : Bool := v.toKey?.isSome

@[simp]
theorem textFor_text (member t : Text) : textFor member (.text t) = .ok t := rfl

theorem getD_table (t : Table) (key : Key) (default : Value) :
    (table t).getD key default = .ok ((t.get? key).getD default) := rfl

theorem getD_set_self (t : Table) (key : Key) (v default : Value) :
    (table (t.set key v)).getD key default = .ok v := by
  rw [getD_table, Table.get?_set_self]
  rfl

theorem getD_set_of_ne {key other : Key} (h : other ≠ key) (t : Table) (v default : Value) :
    (table (t.set key v)).getD other default = (table t).getD other default := by
  rw [getD_table, Table.get?_set_of_ne h, getD_table]

@[simp]
theorem joinable_map_text (position : Nat) (ts : List Text) :
    joinable position (ts.map .text) = .ok ts := by
  induction ts generalizing position with
  | nil => rfl
  | cons t ts ih => simp [joinable, ih, Except.map]

theorem sameKey_iff {v w : Value} : sameKey v w ↔
    v = w ∨ ∃ a b, v.quantity? = some a ∧ w.quantity? = some b ∧ a.same b := by
  rw [sameKey, Bool.or_eq_true, beq_iff_eq]
  refine or_congr_right ?_
  cases v.quantity? with
  | none => simp
  | some a => cases w.quantity? <;> simp

@[simp]
theorem sameKey_text (t u : Text) : sameKey (.text t) (.text u) = (t == u) := by
  rw [Bool.eq_iff_iff, sameKey_iff]
  simp [quantity?]

@[simp]
theorem sameKey_int (m n : Int) : sameKey (.int m) (.int n) = (m == n) := by
  rw [Bool.eq_iff_iff, sameKey_iff]
  simp [quantity?, Quantity.same]

theorem sameKey_equivalence : Equivalence fun v w : Value => sameKey v w = true where
  refl v := sameKey_iff.2 (.inl rfl)
  symm {v w} h := by
    rcases sameKey_iff.1 h with rfl | ⟨a, b, ha, hb, hab⟩
    · exact h
    · exact sameKey_iff.2 (.inr ⟨b, a, hb, ha, Quantity.same_symm hab⟩)
  trans {u v w} huv hvw := by
    rcases sameKey_iff.1 huv with rfl | ⟨a, b, ha, hb, hab⟩
    · exact hvw
    rcases sameKey_iff.1 hvw with rfl | ⟨b', c, hb', hc, hbc⟩
    · exact huv
    obtain rfl : b = b' := Option.some.inj (hb.symm.trans hb')
    have hac : a.same c := Quantity.same_trans (isProper_of_quantity? hb) hab hbc
    exact sameKey_iff.2 (.inr ⟨a, c, ha, hc, hac⟩)

end Value

end ChangeFeed
