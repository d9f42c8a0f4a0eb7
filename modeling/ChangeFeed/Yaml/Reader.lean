import ChangeFeed.Value.Misuse
import ChangeFeed.Yaml.Node

/-!
Reading YAML.

Of two entries of a table with the same key the later one counts, in the place of the earlier one.
The tables that a table merges come first, so that its own entries win, and of several merged tables
the earlier ones win.
-/

namespace ChangeFeed.Yaml

/-- A key and a value of a table, as values. -/
abbrev Pair := Value × Value

/-- A table with the value of a key set, at the place of an equal key if there is one. -/
def putPair (t : Table) (key : Key) (v : Value) : Table :=
  match t.keys.find? fun k => Value.sameKey k.toValue key.toValue with
  | some k => t.set k v
  | none => t.set key v

/-- The table of some pairs, none of whose keys may be a list or a table. -/
def tableOfPairs (t : Table) : List Pair → Except SyntaxProblem Table
  | [] => .ok t
  | (k, v) :: ps =>
    match k.toKey? with
    | some key => tableOfPairs (putPair t key v) ps
    | none => .error .collectionKey

namespace Node

mutual

/-- The text of a node; that of a table is the text of its default entry. -/
def text? : Node → Option Text
  | .scalar _ t => some t
  | .list _ _ => none
  | .table _ es => defaultText? es

/-- The text of the default entry among some entries. -/
def defaultText? : List (Node × Node) → Option Text
  | [] => none
  | (k, v) :: es => if k.tag = .default then text? v else defaultText? es

end

mutual

/-- The value that a node stands for. -/
def toValue : Node → Except SyntaxProblem Value
  | .scalar g t => g.read t
  | .list g ns =>
    match g with
    | .list => (values ns).map .list
    | .pairs => (singles ns).map .list
    | _ => .error .special
  | .table g es =>
    match g with
    | .table => do
      let (merged, own) ← pairs es
      return .table (← tableOfPairs [] (merged ++ own))
    | .moment => .error .scalar
    | g => (defaultText? es).elim (.error .special) g.read

/-- The values of nodes. -/
def values : List Node → Except SyntaxProblem (List Value)
  | [] => .ok []
  | n :: ns => do
    let v ← toValue n
    return v :: (← values ns)

/-- The entries of tables of one entry each, as lists of a key and a value. -/
def singles : List Node → Except SyntaxProblem (List Value)
  | [] => .ok []
  | n :: ns => do
    let v ← match n with
      | .table _ [(k, v)] => do pure (.list [← toValue k, ← toValue v])
      | _ => throw .special
    return v :: (← singles ns)

/-- The pairs that a table merges, and those of its own entries. -/
def pairs : List (Node × Node) → Except SyntaxProblem (List Pair × List Pair)
  | [] => .ok ([], [])
  | (k, v) :: es =>
    match k.tag with
    | .merge => do
      let front ← mergedPairs v
      let (merged, own) ← pairs es
      return (front ++ merged, own)
    | _ => do
      let key ←
        if k.tag = .default then (text? k).elim (.error .special) fun t => .ok (.text t)
        else toValue k
      let value ← toValue v
      let (merged, own) ← pairs es
      return (merged, (key, value) :: own)

/-- The pairs of a table, or of a list of tables, that is merged into another one. -/
def mergedPairs : Node → Except SyntaxProblem (List Pair)
  | .table _ es => (pairs es).map fun r => r.1 ++ r.2
  | .list _ ns => mergedLists ns
  | .scalar _ _ => .error .merge

/-- The pairs of some tables, those of the last one first. -/
def mergedLists : List Node → Except SyntaxProblem (List Pair)
  | [] => .ok []
  | n :: ns => do
    let front ← match n with
      | .table _ es => (pairs es).map fun r => r.1 ++ r.2
      | _ => throw .merge
    return (← mergedLists ns) ++ front

end

end Node

/-- The value of a text that holds at most one document; null if it holds none. -/
def read (t : Text) : Except SyntaxProblem Value :=
  if t.all isAllowed then do
    match ← Node.ofTokens (← tokensOf t) with
    | some n => n.toValue
    | none => return .null
  else .error .unprintable

end ChangeFeed.Yaml
