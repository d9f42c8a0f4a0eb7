import ChangeFeed.Text.Quoted

/-!
Why a line of a TAGS file cannot be read.
-/

namespace ChangeFeed.Etags

/-- What is wrong with a line of a TAGS file. -/
inductive Fault where
  /-- The mark between name and line number is missing. -/
  | noPosition
  /-- The comma between line number and offset is missing. -/
  | noOffset
  | lineNumber
  | offset
  /-- The line names neither a symbol nor a file. -/
  | unrecognized
  /-- The size of a file is no number. -/
  | size
  deriving DecidableEq, Repr

/-- What a fault is called in messages. -/
def Fault.message : Fault → Text
  | noPosition => "could not find '\\x01'"
  | noOffset => "could not find ','"
  | lineNumber => "could not parse line number"
  | offset => "could not parse byte offset"
  | unrecognized => "unrecognized format"
  | size => "invalid size"

/-- A fault with the line that has it. -/
structure Problem where
  fault : Fault
  line : Text
  deriving DecidableEq, Repr

/-- The text of the error. -/
def Problem.message (p : Problem) : Text :=
  "tags line parsing error: " ++ p.fault.message ++ ", line was " ++ Text.quoted p.line

end ChangeFeed.Etags
