import ChangeFeed.Attempt
import ChangeFeed.Etags.Entry
import ChangeFeed.Etags.Problem
import ChangeFeed.Text.Lines
import ChangeFeed.Text.Numeral

/-!
Reading a TAGS file line by line.

A line names a file with its size, or a symbol of the file named last. Blank lines and lines that
start with an exclamation mark are passed over.
-/

namespace ChangeFeed.Etags

/-- What has been read of a TAGS file. -/
structure Session where
  entries : List Entry := []
  files : List Text := []
  current : Text := []
  deriving DecidableEq, Repr

/-- The mark between the definition and the name of a symbol. -/
def nameMark : Char := '\x7f'

/-- The mark between the name and the line number of a symbol. -/
def positionMark : Char := '\x01'

/-- The name, line number and offset that follow a definition. -/
def readSymbol (t : Text) : Except Fault (Text × Int × Int) :=
  match Text.cut? positionMark t with
  | none => .error .noPosition
  | some (name, t) =>
    match Text.cut? ',' t with
    | none => .error .noOffset
    | some (line, offset) =>
      match Numeral.read line, Numeral.read offset with
      | .error _, _ => .error .lineNumber
      | .ok _, .error _ => .error .offset
      | .ok line, .ok offset => .ok (name, line, offset)

/-- The file that a line names with its size. -/
def readFile (line : Text) : Except Fault Text :=
  match Text.cutLast? ',' line with
  | none => .error .unrecognized
  | some (file, size) =>
    match Numeral.read size with
    | .error _ => .error .size
    | .ok _ => .ok file

namespace Session

/-- Whether a line is passed over. -/
def skips (line : Text) : Bool := Text.isAllBlank line || line.head? == some '!'

/-- Takes in a line that names a symbol behind its definition. -/
def feedSymbol (line definition t : Text) : Attempt Session Problem Unit := do
  let (name, num, offset) ← Attempt.ofExcept (Problem.mk · line) (readSymbol t)
  modify fun s =>
    { s with entries := s.entries ++ [⟨s.current, definition, name, num, offset⟩] }

/-- Takes in a line that names a file. -/
def feedFile (line : Text) : Attempt Session Problem Unit := do
  let file ← Attempt.ofExcept (Problem.mk · line) (readFile line)
  modify fun s => { s with current := file }
  modify fun s => { s with files := s.files ++ [file] }

/-- Takes in a line. -/
def feed (line : Text) : Attempt Session Problem Unit :=
  if skips line then pure ()
  else match Text.cut? nameMark line with
    | some (definition, t) => feedSymbol line definition t
    | none => feedFile line

/-- Takes in the lines of a text, without the carriage returns at their ends. -/
def feedText (t : Text) : Attempt Session Problem Unit :=
  ((Text.splitLines t).map Text.dropReturns).forM feed

/-- The tags of the entries, in order. -/
def tags (s : Session) : List Tag := s.entries.filterMap Entry.toTag?

/-- What is said about the entries that give no tag. -/
def warnings (s : Session) : List Text :=
  (s.entries.filter fun e => e.toTag?.isNone).map Entry.warning

end Session

/-- The session of a TAGS file that can be read to its end. -/
def parse (t : Text) : Except Problem Session :=
  match (Session.feedText t).exec {} with
  | (.ok _, s) => .ok s
  | (.error p, _) => .error p

end ChangeFeed.Etags
