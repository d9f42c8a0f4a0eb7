import ChangeFeed.Decimal.Shortest
import ChangeFeed.Json.Str
import ChangeFeed.Value.Misuse

/-!
Writing JSON.

A value is written in one line, or with every element and entry in a line of its own, indented by
its depth. Lists and tables without members are written short in either way. What cannot be written
is found before anything is: the indentation, then the members in order, each behind its key.
-/

namespace ChangeFeed.Json

/-- The indentation of each level. -/
inductive Indentation where
  /-- A number of spaces; a negative number is none. -/
  | spaces (n : Int)
  /-- A text in the place of spaces. -/
  | text (t : Text)
  deriving DecidableEq, Repr

namespace Indentation

/-- The start of a line at a depth. -/
def start (depth : Nat) : Indentation → Text
  | spaces n => Text.fill (n.toNat * depth) ' '
  | text t => (List.replicate depth t).flatten

/-- The indentation that a value asks for: none if it is null. -/
def ofValue : Value → Except Misuse (Option Indentation)
  | .null => .ok none
  | .int n => .ok (some (spaces n))
  | .bool b => .ok (some (spaces (if b then 1 else 0)))
  | .text t => .ok (some (text t))
  | v => .error (.notCount v.kindName)

end Indentation

/-- How a value is written. -/
structure Style where
  /-- Whether everything outside printable ASCII is escaped. -/
  ascii : Bool := false
  /-- The indentation of each level, if members get lines of their own. -/
  indent : Option Indentation := none
  deriving DecidableEq, Repr

namespace Style

/-- The start of a line at a depth; nothing if everything is in one line. -/
def newline (s : Style) (depth : Nat) : Text :=
  match s.indent with
  | none => []
  | some i => '\n' :: i.start depth

/-- What stands between two members at a depth. -/
def separator (s : Style) (depth : Nat) : Text :=
  match s.indent with
  | none => ", "
  | some _ => ',' :: s.newline depth

/-- What keeps the indentation from being used. -/
def obstacle? (s : Style) : Option Obstacle :=
  match s.indent with
  | some (.spaces n) =>
    if n < -0x8000000000000000 ∨ 0x8000000000000000 ≤ n then some .indentation else none
  | _ => none

end Style

/-- A number that is no whole number. -/
def realText : Binary64 → Text
  | .nan => "NaN"
  | .infinite negative => if negative then "-Infinity" else "Infinity"
  | x => x.toText

/-- The text of a key. -/
def keyName : Key → Text
  | .null => "null"
  | .bool true => "true"
  | .bool false => "false"
  | .int n => Text.ofInt n
  | .real x => realText x
  | .moment m => m.toText
  | .text t => t
  | .broken t => t.points.escaped

/-- What keeps a key from being written. -/
def keyObstacle? : Key → Option Obstacle
  | .int n => if Numeral.fits n then none else some .number
  | .moment m => some (.key m.shortKind)
  | _ => none

mutual

/-- The first thing that keeps a value from being written. -/
def obstacle? : Value → Option Obstacle
  | .int n => if Numeral.fits n then none else some .number
  | .moment m => some (.value m.shortKind)
  | .list vs => elementsObstacle? vs
  | .table es => entriesObstacle? es
  | _ => none

/-- The first thing that keeps a list of values from being written. -/
def elementsObstacle? : List Value → Option Obstacle
  | [] => none
  | v :: vs => (obstacle? v).or (elementsObstacle? vs)

/-- The first thing that keeps entries from being written. -/
def entriesObstacle? : List (Key × Value) → Option Obstacle
  | [] => none
  | (k, v) :: es => (keyObstacle? k).or ((obstacle? v).or (entriesObstacle? es))

end

/-- An alphabet in which JSON is written: what a text is in it, and what a half of a character. -/
structure Alphabet (α : Type) where
  text : Text → List α
  half : CodePoint → List α

namespace Alphabet

/-- Characters, with halves escaped. -/
def escaping : Alphabet Char := ⟨id, CodePoint.escaped⟩

/-- Code points, so that halves stand for themselves. -/
def raw : Alphabet CodePoint := ⟨CodePoints.ofText, fun p => [p]⟩

variable {α : Type}

/-- A text of code points as a string of JSON. -/
def string (a : Alphabet α) (ascii : Bool) (ps : CodePoints) : List α :=
  let inside : CodePoint → List α
    | .char c => a.text (charText ascii c)
    | p => a.half p
  a.text ['"'] ++ ps.flatMap inside ++ a.text ['"']

/-- A key as a string of JSON. -/
def key (a : Alphabet α) (ascii : Bool) : Key → List α
  | .broken t => a.string ascii t.points
  | k => a.text (stringText ascii (keyName k))

end Alphabet

section
variable {α : Type} (a : Alphabet α) (s : Style)

mutual

/-- A value at a depth. -/
def valueIn (depth : Nat) : Value → List α
  | .null => a.text "null"
  | .bool true => a.text "true"
  | .bool false => a.text "false"
  | .int n => a.text (Text.ofInt n)
  | .real x => a.text (realText x)
  | .moment m => a.text (stringText s.ascii m.toText)
  | .text t => a.text (stringText s.ascii t)
  | .broken t => a.string s.ascii t.points
  | .list [] => a.text "[]"
  | .list (v :: vs) =>
    a.text ('[' :: s.newline (depth + 1)) ++ valueIn (depth + 1) v ++ elementsIn (depth + 1) vs ++
      a.text (s.newline depth) ++ a.text [']']
  | .table [] => a.text "\x7b\x7d"
  | .table ((k, v) :: es) =>
    a.text ('\x7b' :: s.newline (depth + 1)) ++ a.key s.ascii k ++ a.text ": " ++
      valueIn (depth + 1) v ++ entriesIn (depth + 1) es ++ a.text (s.newline depth) ++
      a.text ['\x7d']

/-- The elements of a list behind the first one. -/
def elementsIn (depth : Nat) : List Value → List α
  | [] => a.text []
  | v :: vs => a.text (s.separator depth) ++ valueIn depth v ++ elementsIn depth vs

/-- The entries of a table behind the first one. -/
def entriesIn (depth : Nat) : List (Key × Value) → List α
  | [] => a.text []
  | (k, v) :: es =>
    a.text (s.separator depth) ++ a.key s.ascii k ++ a.text ": " ++ valueIn depth v ++
      entriesIn depth es

end

end

/-- A value as JSON, with halves escaped and nothing said about what cannot be written. -/
def shown (s : Style) (v : Value) : Text := valueIn .escaping s 0 v

/-- A value as JSON: a half stands for itself unless everything outside ASCII is escaped. -/
def points (s : Style) (v : Value) : CodePoints :=
  if s.ascii then shown s v else valueIn .raw s 0 v

/-- A value as JSON, if nothing keeps it from being written. -/
def write (s : Style) (v : Value) : Except Obstacle CodePoints :=
  match s.obstacle?.or (obstacle? v) with
  | some o => .error o
  | none => .ok (points s v)

/-- A value as JSON in one line. -/
def line (v : Value) : Except Obstacle CodePoints := write {} v

end ChangeFeed.Json
