import ChangeFeed.Diff.Hunk
import ChangeFeed.Reference.Basic
import ChangeFeed.Text.Blank
import ChangeFeed.Text.Word

/-!
Scanning added lines for references.

A call is the word in front of an opening parenthesis, whatever it means. A markup reference is the
word with a capital behind the first angle bracket that has one. Names on the ignore list are
dropped, and nothing is looked up anywhere.
-/

namespace ChangeFeed

/-- What a scanner leaves out: the names on its ignore list, and markup unless it is asked for. -/
structure Scanner where
  ignore : List Text
  markup : Bool
  deriving DecidableEq, Repr

namespace Scanner

/-- Names that are types, keywords or built-in functions in common languages. -/
def commonNames : List String := [
  "bool", "byte", "rune", "string", "String", "error", "Error", "int", "int8", "int16", "int32",
  "int64", "uint", "uint8", "uint16", "uint32", "uint64", "uintptr", "float32", "float64",
  "complex64", "complex128", "float", "double", "char", "long", "short", "void", "str", "list",
  "dict", "set", "tuple", "object", "Object", "Array", "Number", "Boolean", "Promise", "Map", "Set",
  "if", "else", "for", "while", "do", "switch", "case", "select", "return", "func", "function",
  "def", "go", "defer", "catch", "try", "except", "with", "elif", "and", "or", "not", "in",
  "typeof", "sizeof", "await", "async", "yield", "lambda", "assert", "print", "make", "new", "len",
  "cap", "append", "copy", "delete", "close", "panic", "recover", "println", "complex", "real",
  "imag", "require", "super", "isinstance", "range", "type", "TODO", "FIXME", "XXX", "_"]

/-- The names that are ignored whatever the configuration says. -/
def defaultIgnore : List Text := commonNames.map String.toList

/-- The scanner without a configuration. -/
def default : Scanner := ⟨defaultIgnore, true⟩

/-- The words that stand in front of an opening parenthesis; `word` is the one being read,
backwards. -/
def callsFrom (word : Text) : Text → List Text
  | [] => []
  | c :: t =>
    if Text.isWord c then callsFrom (c :: word) t
    else if c = '(' then word.reverse :: callsFrom [] t
    else callsFrom [] t

/-- The words that stand in front of an opening parenthesis, of which some may be empty. -/
def calls (t : Text) : List Text := callsFrom [] t

/-- The word behind the first angle bracket that is followed by a capital. -/
def component? : Text → Option Text
  | '<' :: c :: t =>
    if Text.isAsciiUpper c then some (c :: t.takeWhile Text.isWord) else component? (c :: t)
  | _ :: t => component? t
  | [] => none

/-- Whether a name is reported. -/
def keeps (s : Scanner) (name : Text) : Bool := name != [] && !s.ignore.contains name

/-- The references in a line: its calls in order, then its component. -/
def scanLine (s : Scanner) (t : Text) : List (Text × ReferenceKind) :=
  let called := (calls t).filter s.keeps
  let component := if s.markup then (component? t).toList.filter s.keeps else []
  called.map (·, .call) ++ component.map (·, .markup)

/-- The references in an added line of a file. -/
def scanAdded (s : Scanner) (file : Value) (line : Line) : List Reference :=
  (s.scanLine line.text).map fun r => ⟨.text r.1, r.2, file, line.num, .text line.text⟩

/-- The references in the added lines of a hunk. -/
def scanHunk (s : Scanner) (h : Hunk) : List Reference :=
  h.newLines.flatMap (s.scanAdded h.filename)

/-- The references in the added lines of hunks. -/
def scan (s : Scanner) (hs : List Hunk) : List Reference := hs.flatMap s.scanHunk

/-- The tokens that a setting lists: as a list of texts, or as one text with commas and blanks
between them. -/
def tokens (setting : Text) (v : Value) : Except Failure (List Text) :=
  match v with
  | .null => .ok []
  | .text t => .ok (Text.tokens (fun c => c == ',' || Text.isBlank c) t)
  | .list vs =>
    match Value.texts? vs with
    | some ts => .ok ts
    | none => .error (Failure.about v (.tokens setting v))
  | v => .error (Failure.about v (.tokens setting v))

/-- The scanner that the references section of a configuration describes. -/
def ofSection (v : Value) : Except Failure Scanner := do
  let extra ← (v.getD "ignore_extra" .null).mapError Failure.misuse
  let extra ← tokens "references.ignore_extra" extra
  let markup ← (v.getD "markup" (.bool true)).mapError Failure.misuse
  return ⟨defaultIgnore ++ extra, markup.isSet⟩

/-- The scanner that a configuration describes. -/
def ofConfig (config : Value) : Except Failure Scanner := do
  let references ← (config.getD "references" (.table [])).mapError Failure.misuse
  ofSection references

/-- The names on the ignore list, each once and in order. -/
def ignored (s : Scanner) : List Text := Text.sorted s.ignore.eraseDups

end Scanner

end ChangeFeed
