import ChangeFeed.Value.Key

/-!
Values of configuration files and of data records.

A table keeps its entries in the order in which its keys first came up; setting a key that is
already there changes the value and leaves the place.
-/

namespace ChangeFeed

/-- A value of a data file: nothing, a scalar, a list, or a table. -/
inductive Value where
  | null
  | bool (b : Bool)
  | int (n : Int)
  | real (x : Binary64)
  | moment (m : Moment)
  | text (t : Text)
  /-- A text in which halves of characters stand alone. -/
  | broken (t : BrokenText)
  | list (vs : List Value)
  | table (entries : List (Key × Value))
  deriving Repr, Inhabited

/-- The entries of a table, in order. -/
abbrev Table := List (Key × Value)

instance : Coe Text Value := ⟨.text⟩

namespace Table

/-- The value of a key. -/
def get? (key : Key) : Table → Option Value
  | [] => none
  | (k, v) :: rest => if k = key then some v else get? key rest

/-- The table with `key` set to `v`: in place if the key is there, else at the end. -/
def set (key : Key) (v : Value) : Table → Table
  | [] => [(key, v)]
  | (k, w) :: rest => if k = key then (k, v) :: rest else (k, w) :: set key v rest

/-- The keys in order. -/
def keys (t : Table) : List Key := t.map Prod.fst

@[simp]
theorem get?_set_self (key : Key) (v : Value) (t : Table) : get? key (set key v t) = some v := by
  induction t with
  | nil => simp [set, get?]
  | cons e rest ih =>
    obtain ⟨k, w⟩ := e
    by_cases h : k = key <;> simp [set, get?, h, ih]

theorem get?_set_of_ne {key other : Key} (h : other ≠ key) (v : Value) (t : Table) :
    get? other (set key v t) = get? other t := by
  induction t with
  | nil => simp [set, get?, Ne.symm h]
  | cons e rest ih =>
    obtain ⟨k, w⟩ := e
    by_cases hk : k = key
    · subst hk
      simp [set, get?, Ne.symm h]
    · by_cases ho : k = other
      · subst ho
        simp [set, get?, hk]
      · simp [set, get?, hk, ho, ih]

/-- Setting a key keeps the keys and appends at most the new one. -/
theorem keys_set (key : Key) (v : Value) (t : Table) :
    keys (set key v t) = if key ∈ keys t then keys t else keys t ++ [key] := by
  induction t with
  | nil => simp [set, keys]
  | cons e rest ih =>
    obtain ⟨k, w⟩ := e
    by_cases hk : k = key
    · simp [set, keys, hk]
    · have hk' : ¬ key = k := fun h => hk h.symm
      simp only [keys, set, hk, if_false, List.map_cons, List.mem_cons, hk', false_or] at ih ⊢
      by_cases hm : key ∈ List.map Prod.fst rest <;> simp [ih, hm]

end Table

/-- A key as a value. -/
def Key.toValue : Key → Value
  | null => .null
  | bool b => .bool b
  | int n => .int n
  | real x => .real x
  | moment m => .moment m
  | text t => .text t
  | broken t => .broken t

namespace Value

/-- The value that is a text of code points. -/
def ofPoints (ps : CodePoints) : Value := (Key.ofPoints ps).toValue

@[simp]
theorem ofPoints_ofText (t : Text) : ofPoints (CodePoints.ofText t) = .text t := by
  rw [ofPoints, Key.ofPoints_ofText]
  rfl

/-- The key that a value can be: lists and tables cannot. -/
def toKey? : Value → Option Key
  | null => some .null
  | bool b => some (.bool b)
  | int n => some (.int n)
  | real x => some (.real x)
  | moment m => some (.moment m)
  | text t => some (.text t)
  | broken t => some (.broken t)
  | list _ | table _ => none

@[simp]
theorem toKey?_toValue (k : Key) : k.toValue.toKey? = some k := by cases k <;> rfl

theorem toKey?_eq_some_iff {v : Value} {k : Key} : v.toKey? = some k ↔ v = k.toValue := by
  constructor
  · cases v <;> intro h <;> simp only [toKey?, Option.some.injEq, reduceCtorEq] at h <;>
      subst h <;> rfl
  · rintro rfl
    exact toKey?_toValue k

/-- The name of the kind of a value, as messages give it. -/
def kindName : Value → Text
  | null => "NoneType"
  | bool _ => "bool"
  | int _ => "int"
  | real _ => "float"
  | moment m => m.kindName
  | text _ | broken _ => "str"
  | list _ => "list"
  | table _ => "dict"

/-- Whether a value counts as set: neither null, false, zero nor empty. -/
def isSet : Value → Bool
  | null => false
  | bool b => b
  | int n => n != 0
  | real x => !x.isZero
  | moment _ => true
  | text t => t != []
  | broken _ => true
  | list vs => !vs.isEmpty
  | table es => !es.isEmpty

/-- Whether a value is the given text. -/
def isText (t : Text) : Value → Bool
  | text u => u == t
  | _ => false

@[simp]
theorem isText_iff {t : Text} {v : Value} : v.isText t = true ↔ v = .text t := by
  cases v <;> simp [isText]

/-- Whether a value is a table. -/
def isTable : Value → Bool
  | table _ => true
  | _ => false

theorem isTable_ofPoints (ps : CodePoints) : (ofPoints ps).isTable = false := by
  unfold ofPoints Key.ofPoints
  split <;> rfl

/-- The texts of a list of texts. -/
def texts? : List Value → Option (List Text)
  | [] => some []
  | .text t :: vs => (texts? vs).map (t :: ·)
  | _ :: _ => none

/-- A list of texts as a value. -/
def ofTexts (ts : List Text) : Value := .list (ts.map .text)

@[simp]
theorem texts?_map_text (ts : List Text) : texts? (ts.map .text) = some ts := by
  induction ts with
  | nil => rfl
  | cons t ts ih => simp [texts?, ih]

mutual

/-- Equality of values is decidable. -/
def decEq : (a b : Value) → Decidable (a = b)
  | null, null => isTrue rfl
  | bool a, bool b => if h : a = b then isTrue (by rw [h]) else isFalse (by simp [h])
  | int a, int b => if h : a = b then isTrue (by rw [h]) else isFalse (by simp [h])
  | real a, real b => if h : a = b then isTrue (by rw [h]) else isFalse (by simp [h])
  | moment a, moment b => if h : a = b then isTrue (by rw [h]) else isFalse (by simp [h])
  | text a, text b => if h : a = b then isTrue (by rw [h]) else isFalse (by simp [h])
  | broken a, broken b => if h : a = b then isTrue (by rw [h]) else isFalse (by simp [h])
  | list a, list b =>
    match decEqList a b with
    | isTrue h => isTrue (by rw [h])
    | isFalse h => isFalse (by simp [h])
  | table a, table b =>
    match decEqEntries a b with
    | isTrue h => isTrue (by rw [h])
    | isFalse h => isFalse (by simp [h])
  | null, bool _ | null, int _ | null, real _ | null, moment _ | null, text _ | null, broken _
  | null, list _ | null, table _ | bool _, null | bool _, int _ | bool _, real _ | bool _, moment _
  | bool _, text _ | bool _, broken _ | bool _, list _ | bool _, table _ | int _, null
  | int _, bool _ | int _, real _ | int _, moment _ | int _, text _ | int _, broken _
  | int _, list _ | int _, table _ | real _, null | real _, bool _ | real _, int _
  | real _, moment _ | real _, text _ | real _, broken _ | real _, list _ | real _, table _
  | moment _, null | moment _, bool _ | moment _, int _ | moment _, real _ | moment _, text _
  | moment _, broken _ | moment _, list _ | moment _, table _ | text _, null | text _, bool _
  | text _, int _ | text _, real _ | text _, moment _ | text _, broken _ | text _, list _
  | text _, table _ | broken _, null | broken _, bool _ | broken _, int _ | broken _, real _
  | broken _, moment _ | broken _, text _ | broken _, list _ | broken _, table _ | list _, null
  | list _, bool _ | list _, int _ | list _, real _ | list _, moment _ | list _, text _
  | list _, broken _ | list _, table _ | table _, null | table _, bool _ | table _, int _
  | table _, real _ | table _, moment _ | table _, text _ | table _, broken _ | table _, list _ =>
    isFalse (by simp)

/-- Equality of lists of values is decidable. -/
def decEqList : (a b : List Value) → Decidable (a = b)
  | [], [] => isTrue rfl
  | [], _ :: _ => isFalse (by simp)
  | _ :: _, [] => isFalse (by simp)
  | x :: xs, y :: ys =>
    match decEq x y, decEqList xs ys with
    | isTrue h, isTrue hs => isTrue (by rw [h, hs])
    | isFalse h, _ => isFalse (by simp [h])
    | _, isFalse hs => isFalse (by simp [hs])

/-- Equality of entries is decidable. -/
def decEqEntries : (a b : List (Key × Value)) → Decidable (a = b)
  | [], [] => isTrue rfl
  | [], _ :: _ => isFalse (by simp)
  | _ :: _, [] => isFalse (by simp)
  | (k, x) :: xs, (l, y) :: ys =>
    match decEq x y, decEqEntries xs ys with
    | isTrue h, isTrue hs =>
      if hk : k = l then isTrue (by rw [h, hs, hk]) else isFalse (by simp [hk])
    | isFalse h, _ => isFalse (by simp [h])
    | _, isFalse hs => isFalse (by simp [hs])

end

instance : DecidableEq Value := decEq

end Value

end ChangeFeed
