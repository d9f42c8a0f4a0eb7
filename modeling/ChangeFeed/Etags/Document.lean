import ChangeFeed.Etags.Session

/-!
TAGS files as documents.

A document has a section for each file, with a line for each symbol of the file. `render` writes a
document, and `entries` are the symbols that it lists.
-/

namespace ChangeFeed.Etags

/-- What a section says of a symbol. -/
structure SymbolLine where
  definition : Text
  name : Text
  line : Int
  offset : Int
  deriving DecidableEq, Repr

namespace SymbolLine

/-- The line of the symbol. -/
def render (s : SymbolLine) : Text :=
  s.definition ++ nameMark :: s.name ++ positionMark :: Text.ofInt s.line ++ ',' ::
    Text.ofInt s.offset

/-- The symbol as one of a file. -/
def entry (file : Text) (s : SymbolLine) : Entry :=
  ⟨file, s.definition, s.name, s.line, s.offset⟩

end SymbolLine

/-- What a TAGS file says of one file. -/
structure Section where
  file : Text
  size : Int
  symbols : List SymbolLine := []
  deriving DecidableEq, Repr

namespace Section

/-- The lines of the section, of which the first is a form feed. -/
def lines (s : Section) : List Text :=
  ['\x0c'] :: (s.file ++ ',' :: Text.ofInt s.size) :: s.symbols.map SymbolLine.render

/-- The symbols of the section. -/
def entries (s : Section) : List Entry := s.symbols.map (SymbolLine.entry s.file)

end Section

/-- The text of a TAGS file with the given sections. -/
def render (ss : List Section) : Text := Text.ofLines (ss.flatMap Section.lines)

/-- The symbols that a TAGS file with the given sections lists. -/
def entries (ss : List Section) : List Entry := ss.flatMap Section.entries

end ChangeFeed.Etags
