import ChangeFeed.Failure

/-!
References: names in added lines that look like uses of symbols.

Name, file and line text are texts wherever lines have been scanned; data from elsewhere may have
any value in their place.
-/

namespace ChangeFeed

/-- How a reference was recognised. -/
inductive ReferenceKind where
  /-- A name in front of a parenthesis. -/
  | call
  /-- A component in angle brackets. -/
  | markup
  deriving DecidableEq, Repr

namespace ReferenceKind

/-- The name of a kind. -/
def name : ReferenceKind → Text
  | call => "call"
  | markup => "markup"

/-- The kind that a value names. -/
def ofValue (v : Value) : Except Failure ReferenceKind :=
  if v.isText call.name then .ok call
  else if v.isText markup.name then .ok markup
  else .error (.unknownMember "ReferenceKind" v)

end ReferenceKind

/-- One use of a name in an added line. -/
structure Reference where
  name : Value
  kind : ReferenceKind
  file : Value
  line : Int
  text : Value
  deriving DecidableEq, Repr

end ChangeFeed
