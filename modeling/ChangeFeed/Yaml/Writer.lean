import ChangeFeed.Decimal.Shortest
import ChangeFeed.Yaml.Quoting

/-!
Writing YAML.

Tables and lists are written in blocks, the keys of a table in order. A list in a table stands at
the indentation of its key; what has no members is written in brackets or braces.
-/

namespace ChangeFeed.Yaml

/-- A number that is no whole number. -/
def realText : Binary64 → Text
  | .nan => ".nan"
  | .infinite negative => if negative then "-.inf" else ".inf"
  | x =>
    let t := x.toText
    if t.contains '.' then t
    else match Text.cut? 'e' t with
      | some (b, a) => b ++ ".0e" ++ a
      | none => t

/-- A value that is written in one piece, from a column on. -/
def pieceText (indent column : Nat) : Value → Text
  | .null => "null"
  | .bool b => if b then "true" else "false"
  | .int n => Text.ofInt n
  | .real x => realText x
  | .moment m => m.toText
  | .text t => scalarText indent column t
  | .broken t => '"' :: t.points.escaped ++ ['"']
  | .list _ => "[]"
  | .table _ => "\x7b\x7d"

/-- The most characters of a key that stands in front of its colon. -/
def maxKeyLength : Nat := 122

/-- Whether a key stands in front of its colon, in one line. -/
def isSimpleKey : Key → Bool
  | .text k => k != [] && !k.any isBreak && k.length ≤ maxKeyLength
  | _ => true

/-- A key in front of its colon. -/
def keyText : Key → Text
  | .text k => styledText (styleOf true k) true 0 0 k
  | k => pieceText 0 0 k.toValue

mutual

/-- A value at an indentation, whose first line has been started there. -/
def blockText (indent : Nat) : Value → Text
  | .table (e :: es) => entriesText indent true (e :: es)
  | .list (v :: vs) => itemsText indent true (v :: vs)
  | v => pieceText indent indent v

/-- The value of an entry at an indentation, behind the colon that ends at a column. -/
def entryValueText (indent column : Nat) : Value → Text
  | .table (e :: es) => newline (indent + 2) ++ entriesText (indent + 2) true (e :: es)
  | .list (v :: vs) => newline indent ++ itemsText indent true (v :: vs)
  | v => ' ' :: pieceText (indent + 2) (column + 1) v

/-- The entries of a table at an indentation; the first one continues the line. -/
def entriesText (indent : Nat) (first : Bool) : List (Key × Value) → Text
  | [] => []
  | (k, v) :: es =>
    let start := if first then [] else newline indent
    let entry :=
      if isSimpleKey k then
        let key := keyText k
        key ++ ':' :: entryValueText indent (indent + key.length + 1) v
      else
        '?' :: ' ' :: pieceText (indent + 2) (indent + 2) k.toValue ++ newline indent ++
          ':' :: ' ' :: blockText (indent + 2) v
    start ++ entry ++ entriesText indent false es

/-- The items of a list at an indentation; the first one continues the line. -/
def itemsText (indent : Nat) (first : Bool) : List Value → Text
  | [] => []
  | v :: vs =>
    let start := if first then [] else newline indent
    start ++ '-' :: ' ' :: blockText (indent + 2) v ++ itemsText indent false vs

end

/-- Entries in the order of their keys, if those are texts. -/
def sortEntries (es : Table) : Table :=
  if es.all fun e => e.1.text?.isSome then
    es.mergeSort fun a b => Text.le (a.1.text?.getD []) (b.1.text?.getD [])
  else es

mutual

/-- A value with the keys of all its tables in order. -/
def ordered : Value → Value
  | .list vs => .list (orderedItems vs)
  | .table es => .table (sortEntries (orderedEntries es))
  | v => v

/-- Values with the keys of all their tables in order. -/
def orderedItems : List Value → List Value
  | [] => []
  | v :: vs => ordered v :: orderedItems vs

/-- Entries whose values have the keys of all their tables in order. -/
def orderedEntries : List (Key × Value) → List (Key × Value)
  | [] => []
  | (k, v) :: es => (k, ordered v) :: orderedEntries es

end

/-- Whether a document of one plain value needs a mark at its end. -/
def needsEndMark : Value → Bool
  | .table _ | .list _ => false
  | .text t => styleOf false t == .plain
  | _ => true

/-- The text of a document: what has no members continues at the indentation of a value. -/
def rootText : Value → Text
  | .table (e :: es) => blockText 0 (.table (e :: es))
  | .list (v :: vs) => blockText 0 (.list (v :: vs))
  | v => pieceText 2 0 v

/-- A value as a YAML document. -/
def write (v : Value) : Text :=
  rootText (ordered v) ++ if needsEndMark v then "\n...\n".toList else ['\n']

end ChangeFeed.Yaml
