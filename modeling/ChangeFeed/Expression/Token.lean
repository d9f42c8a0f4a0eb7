import ChangeFeed.Text.Basic

/-!
The tokens of an expression.

A token knows its line, how many brackets are open behind it, and whether the text had to be read
to its end to find where the token ends.
-/

namespace ChangeFeed.Expression

/-- The kinds of tokens. -/
inductive Token.Kind where
  | name
  /-- A reserved word. -/
  | word
  | number
  /-- A text in quotes, with the letters in front of them. -/
  | quoted
  | sign
  | newline
  | indent
  | dedent
  /-- The end of the text. -/
  | finish
  deriving DecidableEq, Repr

/-- A token. -/
structure Token where
  kind : Token.Kind
  text : Text
  line : Nat
  /-- How many brackets are open behind the token. -/
  level : Nat
  /-- Whether the end of the text was met in finding the end of the token. -/
  meetsEnd : Bool
  deriving DecidableEq, Repr

/-- Words that are no names. -/
def reservedWords : List String := [
  "False", "None", "True", "and", "as", "assert", "async", "await", "break", "class", "continue",
  "def", "del", "elif", "else", "except", "finally", "for", "from", "global", "if", "import", "in",
  "is", "lambda", "nonlocal", "not", "or", "pass", "raise", "return", "try", "while", "with",
  "yield"]

/-- Names that are words in some statements. -/
def softWords : List String := ["_", "case", "match"]

/-- The kind of a word. -/
def wordKind (t : Text) : Token.Kind :=
  if reservedWords.contains (String.ofList t) then .word else .name

/-- Whether the letters in front of a quote belong to the text in quotes. -/
def isQuoteMark (t : Text) : Bool :=
  ["r", "b", "u", "f", "br", "rb", "fr", "rf"].contains (String.ofList (t.map Char.toLower))

/-- The signs of several characters, the longer ones first. -/
def longSigns : List String := [
  "...", "**=", "//=", "<<=", ">>=", "**", "//", "<<", ">>", "<=", ">=", "==", "!=", "<>", "->",
  ":=", "+=", "-=", "*=", "/=", "%=", "&=", "|=", "^=", "@="]

end ChangeFeed.Expression
