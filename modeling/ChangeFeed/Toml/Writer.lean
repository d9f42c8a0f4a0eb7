import ChangeFeed.Text.CodeRange
import ChangeFeed.Value.Literal
import ChangeFeed.Value.Misuse

/-!
Writing TOML.

Settings come before the tables of their section, and sections come level by level, each under its
full name. Null has no form in TOML: an entry that holds it is left out. A section that holds
nothing but sections has no header of its own. A list with a table in it is written as a section for
each of its elements, behind the settings.
-/

namespace ChangeFeed.Toml

/-- Whether a character can stand in a key without quotes. -/
def isBare (c : Char) : Bool :=
  Text.isAsciiLetter c || Text.isAsciiDigit c || c == '_' || c == '-'

/-- The text between the quotes of a quoted text, with quotes as TOML has them. -/
def requote : Text → Text
  | [] => []
  | '\\' :: '\'' :: t => '\'' :: requote t
  | '"' :: t => '\\' :: '"' :: requote t
  | c :: t => c :: requote t

/-- The inside of a text in quotes, which for a double quote stays as it is. -/
def insideOf (t : Text) : Text :=
  let inside := ((Text.quoted t).drop 1).dropLast
  if Text.quoteFor t = '\'' then requote inside else inside

/-- The pieces of a text between escapes by two hexadecimal digits. -/
def splitAtHex : Text → List Text
  | [] => [[]]
  | '\\' :: 'x' :: t => [] :: splitAtHex t
  | c :: t =>
    match splitAtHex t with
    | p :: ps => (c :: p) :: ps
    | [] => [[c]]

/-- A text with each doubled backslash made a single one. -/
def halveBackslashes : Text → Text
  | '\\' :: '\\' :: t => '\\' :: halveBackslashes t
  | c :: t => c :: halveBackslashes t
  | [] => []

/-- What joins a piece with the two digits that followed it. -/
def joiner (piece : Text) : Text :=
  let n := (piece.reverse.takeWhile (· == '\\')).length
  let turns := min n (piece.length - 1)
  if n = 0 ∨ turns % 2 = 1 then "x" else "u00"

/-- The pieces joined again; nothing if digits follow no piece. -/
def joinPieces? : Text → List Text → Option Text
  | piece, [] => some piece
  | piece, next :: rest =>
    if piece = [] then
      match rest with
      | [] => none
      | r :: rest =>
        let piece := halveBackslashes next
        joinPieces? (piece ++ joiner piece ++ r) rest
    else
      let piece := halveBackslashes piece
      joinPieces? (piece ++ joiner piece ++ next) rest

/-- A text in double quotes. -/
def stringText (t : Text) : Except Misuse Text :=
  match splitAtHex (insideOf t) with
  | [] => .error .noElement
  | p :: ps =>
    match joinPieces? p ps with
    | some s => .ok ('"' :: s ++ ['"'])
    | none => .error .noElement

/-- A key, in quotes unless all its characters can do without; a newline at the end does not
count. -/
def keyText (k : Text) : Except Misuse Text :=
  let body := if k.getLast? = some '\n' then k.dropLast else k
  if body != [] && body.all isBare then .ok k else stringText k

/-- A number that is no whole number, with an exponent without a zero in front. -/
def realText (x : Binary64) : Text :=
  let t := x.toText
  match Text.cutAround? "e+0" t, Text.cutAround? "e-0" t with
  | some (b, a), _ => b ++ "e+" ++ a
  | _, some (b, a) => b ++ "e-" ++ a
  | _, _ => t

mutual

/-- A value behind an equals sign. -/
def valueText : Value → Except Misuse Text
  | .null => stringText (Value.literal .null)
  | .bool b => .ok (if b then "true" else "false")
  | .int n => .ok (Text.ofInt n)
  | .real x => .ok (realText x)
  | .moment m => .ok m.toText
  | .text t => stringText t
  | .broken t => .error (.unencodable t.problem)
  | .list vs => (elementsText vs).map fun t => '[' :: t ++ [']']
  | .table es => (keysText es).map fun t => '[' :: t ++ [']']

/-- The elements of a list, each with a comma behind it. -/
def elementsText : List Value → Except Misuse Text
  | [] => .ok []
  | v :: vs => do
    let t ← valueText v
    let ts ← elementsText vs
    return ' ' :: t ++ ',' :: ts

/-- The keys of a table in a list, each with a comma behind it. -/
def keysText : List (Key × Value) → Except Misuse Text
  | [] => .ok []
  | (k, _) :: es => do
    let t ← stringText k.toValue.display
    let ts ← keysText es
    return ' ' :: t ++ ',' :: ts

end

/-- A section under its full name. -/
structure Section where
  name : Text
  /-- Its settings, and behind them the lists with tables in them. -/
  lines : Except Misuse Text
  /-- Whether further sections stand in it. -/
  hasTables : Bool

/-- The sections that stand equally deep, in order. -/
abbrev Level := List Section

/-- Two runs of levels side by side. -/
def besides : List Level → List Level → List Level
  | [], bs => bs
  | as, [] => as
  | a :: as, b :: bs => (a ++ b) :: besides as bs

/-- The full name of what stands under a key in a section. -/
def nameIn (name key : Text) : Text := if name = [] then key else name ++ '.' :: key

/-- The lines of a section that is no table: there are none if it has no elements, and else the
elements cannot be looked up. -/
def foreignLines : Value → Except Misuse Text
  | .list [] | .text [] => .ok []
  | .list (v :: _) => (keyText v.display).bind fun _ => .error (.notPosition "str")
  | .text (c :: _) => (keyText [c]).bind fun _ => .error (.notCharacterPosition "str")
  | v => .error (.notIterable v.kindName)

/-- A section in a list behind its header, with the line between it and the sections in it. -/
def parted (lines : Text) : Text :=
  if lines.head? = some '[' then '\n' :: lines else lines ++ ['\n']

/-- The sections of some levels that have lines, each under its header. -/
def listedText (levels : List Level) : Except Misuse Text := do
  let texts ← levels.flatten.mapM fun s => do
    let lines ← s.lines
    return if lines = [] then [] else '[' :: s.name ++ "]\n".toList ++ lines
  return texts.flatten

mutual

/-- A table under its full name and, level by level, the sections in it. -/
def sectionAndBelow (name : Text) : Value → Section × List Level
  | .table es =>
    let lines := (linesOf name es).map fun r => r.1 ++ r.2
    (⟨name, lines, es.any fun e => e.2.isTable⟩, below name es)
  | v => (⟨name, foreignLines v, false⟩, [])

/-- Level by level, the sections in a table. -/
def below (name : Text) : List (Key × Value) → List Level
  | [] => []
  | (k, v) :: es =>
    match v with
    | .table inner =>
      let key := (keyText k.toValue.display).toOption.getD []
      let r := sectionAndBelow (nameIn name key) (.table inner)
      besides ([r.1] :: r.2) (below name es)
    | _ => below name es

/-- The settings of a table as lines, and behind them its lists with tables in them. -/
def linesOf (name : Text) : List (Key × Value) → Except Misuse (Text × Text)
  | [] => .ok ([], [])
  | (k, v) :: es => do
    let key ← keyText k.toValue.display
    let (setting, listed) ← match v with
      | .null | .table _ => pure ([], [])
      | .list vs =>
        if vs.any Value.isTable then (listedSections (nameIn name key) vs).map fun t => ([], t)
        else (elementsText vs).map fun t => (key ++ " = [".toList ++ t ++ "]\n".toList, [])
      | v => (valueText v).map fun t => (key ++ " = ".toList ++ t ++ ['\n'], [])
    let (settings, lists) ← linesOf name es
    return (setting ++ settings, listed ++ lists)

/-- The elements of a list as sections of the same name. -/
def listedSections (name : Text) : List Value → Except Misuse Text
  | [] => .ok []
  | v :: vs => do
    let r := sectionAndBelow name v
    let lines ← r.1.lines
    let inner ← listedText r.2
    let further ← listedSections name vs
    return "[[" ++ name ++ "]]\n" ++ parted lines ++ inner ++ further

end

/-- A section behind what has been written; a section of sections only has no header. -/
def addSection (written : Text) (s : Section) : Except Misuse Text := do
  let lines ← s.lines
  if lines = [] ∧ s.hasTables then return written
  let gap : Text := if written = [] ∨ Text.endsWith ['\n', '\n'] written then [] else ['\n']
  return written ++ gap ++ '[' :: s.name ++ "]\n".toList ++ lines

/-- A value as TOML. -/
def write (v : Value) : Except Misuse Text := do
  let r := sectionAndBelow [] v
  let lines ← r.1.lines
  r.2.flatten.foldlM addSection lines

end ChangeFeed.Toml
