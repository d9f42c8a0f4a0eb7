import ChangeFeed.Text.Numeral

/-!
Why a text is no JSON, and why a value has none.

A problem is placed in the text by line, column and position; lines and columns count from one,
positions from zero. A text that nests too deeply is refused wherever it ends. A value has no JSON
if it holds a moment, or a number with more digits than may be written.
-/

namespace ChangeFeed.Json

/-- What is wrong at a place of a text. -/
inductive Fault where
  | value
  | propertyName
  | colon
  | comma
  | unterminated
  | control
  | escape
  | unicodeEscape
  | extra
  | byteOrderMark
  deriving DecidableEq, Repr

/-- What a fault is called in messages. -/
def Fault.message : Fault → Text
  | value => "Expecting value"
  | propertyName => "Expecting property name enclosed in double quotes"
  | colon => "Expecting ':' delimiter"
  | comma => "Expecting ',' delimiter"
  | unterminated => "Unterminated string starting at"
  | control => "Invalid control character at"
  | escape => "Invalid \\escape"
  | unicodeEscape => "Invalid \\uXXXX escape"
  | extra => "Extra data"
  | byteOrderMark => "Unexpected UTF-8 BOM (decode using utf-8-sig)"

/-- A fault with its place in a text. -/
structure Problem where
  fault : Fault
  line : Nat
  column : Nat
  position : Nat
  deriving DecidableEq, Repr

namespace Problem

/-- A fault at a position of a text. -/
def placed (fault : Fault) (t : Text) (position : Nat) : Problem :=
  let before := t.take position
  { fault
    line := before.count '\n' + 1
    column := (before.reverse.takeWhile (· != '\n')).length + 1
    position }

/-- The text of the error. -/
def message (p : Problem) : Text :=
  p.fault.message ++ ": line " ++ Text.ofNat p.line ++ " column " ++ Text.ofNat p.column ++
    " (char " ++ Text.ofNat p.position ++ ")"

end Problem

/-- What can hold other values. -/
inductive Container where
  | array
  | object
  deriving DecidableEq, Repr

/-- The text of the error when one container too many is opened. -/
def Container.tooDeep : Container → Text
  | array => "maximum recursion depth exceeded while decoding a JSON array from a unicode string"
  | object => "maximum recursion depth exceeded while decoding a JSON object from a unicode string"

/-- What keeps a value from being written. -/
inductive Obstacle where
  /-- A value of a kind that JSON does not have. -/
  | value (kind : Text)
  /-- A key of a kind that cannot be written as a text. -/
  | key (kind : Text)
  /-- A number with too many digits. -/
  | number
  /-- An indentation that no text can have. -/
  | indentation
  deriving DecidableEq, Repr

namespace Obstacle

/-- The kind of error, as reports name it. -/
def kind : Obstacle → Text
  | number => "ValueError"
  | indentation => "OverflowError"
  | _ => "TypeError"

/-- The text of the error. -/
def message : Obstacle → Text
  | value k => "Object of type " ++ k ++ " is not JSON serializable"
  | key k => "keys must be str, int, float, bool or None, not " ++ k
  | number => Numeral.Problem.tooLarge.message
  | indentation => "cannot fit 'int' into an index-sized integer"

end Obstacle

end ChangeFeed.Json
