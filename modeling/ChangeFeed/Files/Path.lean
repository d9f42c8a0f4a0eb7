import ChangeFeed.Text.Basic

/-!
Paths of files.

A path is a root and the names along the way. Empty names and names of a single dot say nothing and
are left out; two dots are kept, since what they mean depends on the tree.
-/

namespace ChangeFeed

/-- A path: its root, which is empty for a path from the working directory, and its names. -/
structure Path where
  root : Text
  names : List Text
  deriving DecidableEq, Repr

namespace Path

/-- The root that a text starts with: one slash, or two if there are exactly two. -/
def rootOf : Text → Text
  | '/' :: '/' :: '/' :: _ => ['/']
  | '/' :: '/' :: _ => ['/', '/']
  | '/' :: _ => ['/']
  | _ => []

/-- The path that a text stands for. -/
def ofText (t : Text) : Path :=
  ⟨rootOf t, (t.splitOn '/').filter fun n => n != [] && n != ['.']⟩

/-- The text of a path. -/
def toText (p : Path) : Text :=
  if p.root = [] ∧ p.names = [] then ['.'] else p.root ++ Text.join ['/'] p.names

/-- The path `q`, taken from `p` if it has no root. -/
def append (p q : Path) : Path := if q.root = [] then ⟨p.root, p.names ++ q.names⟩ else q

/-- The path without its last name. -/
def parent (p : Path) : Path := { p with names := p.names.dropLast }

/-- The end of the last name from its last dot on, if something stands on both sides of the dot. -/
def suffix (p : Path) : Text :=
  match p.names.getLast?.bind (Text.cutLast? '.') with
  | some (before, after) => if before = [] ∨ after = [] then [] else '.' :: after
  | none => []

/-- Whether a null character stands somewhere in a path. -/
def hasNull (p : Path) : Bool := p.names.any fun n => n.contains '\x00'

end Path

end ChangeFeed
