import ChangeFeed.Symbol.Tag
import ChangeFeed.Text.Blank

/-!
Entries of a TAGS file.

An entry holds the text of a definition up to its name. The tag of an entry takes what stands before
the name for the kind and what stands behind it for the signature; an entry whose name is not in its
text gives no tag.
-/

namespace ChangeFeed.Etags

/-- A symbol in a TAGS file. -/
structure Entry where
  file : Text
  definition : Text
  name : Text
  line : Int
  offset : Int
  deriving DecidableEq, Repr

/-- A definition cut around its name. -/
structure Parts where
  name : Text
  keyword : Text
  type : Text
  separator : Text
  deriving DecidableEq, Repr

namespace Parts

/-- The kind of a definition is the keyword in front of its name. -/
def kind (p : Parts) : Text := p.keyword

/-- A definition cut around the first place where the name stands. A colon behind the name is a
separator, and the type behind it has no blanks at its ends. -/
def ofDefinition? (definition name : Text) : Option Parts :=
  (Text.cutAround? name definition).map fun (before, after) =>
    match after with
    | ':' :: type => ⟨name, Text.strip before, Text.strip type, [':']⟩
    | type => ⟨name, Text.strip before, type, []⟩

end Parts

namespace Entry

/-- The tag of an entry, if its name is in its text. -/
def toTag? (e : Entry) : Option Tag :=
  (Parts.ofDefinition? e.definition e.name).map fun p =>
    { file := .text e.file
      name := .text e.name
      kind := .text p.kind
      signature := .text p.type
      line := e.line }

/-- What is said about an entry that gives no tag. -/
def warning (e : Entry) : Text :=
  "Name " ++ Text.quoted e.name ++ " not found in definition " ++ Text.quoted e.definition

end Entry

end ChangeFeed.Etags
