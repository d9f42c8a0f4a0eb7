import ChangeFeed.Text.Numeral
import ChangeFeed.Text.Printable

/-!
What is wrong with a text that is no expression.

Faults of single tokens come first, then faults in the order of tokens. A fault that is met in a
field of a text says so in front of its message.
-/

namespace ChangeFeed.Expression

/-- The bases and kinds of numerals, as messages name them. -/
inductive NumeralKind where
  | binary
  | octal
  | hexadecimal
  | decimal
  | imaginary
  deriving DecidableEq, Repr

namespace NumeralKind

/-- The name of a kind of numeral. -/
def name : NumeralKind → Text
  | binary => "binary"
  | octal => "octal"
  | hexadecimal => "hexadecimal"
  | decimal => "decimal"
  | imaginary => "imaginary"

/-- The base of a kind of numeral. -/
def base : NumeralKind → Nat
  | binary => 2
  | octal => 8
  | hexadecimal => 16
  | decimal | imaginary => 10

end NumeralKind

/-- What is wrong with an escape of a text or of bytes. -/
inductive EscapeFault where
  /-- Too few hexadecimal digits behind the letter of the escape, of which there should be some. -/
  | truncated (letter : Char) (digits : Nat)
  /-- A number that is no code point. -/
  | noCharacter
  /-- A named character without a name. -/
  | unnamed
  /-- A character of a name that is not known. -/
  | unknownName
  deriving DecidableEq, Repr

/-- The text of the reason. -/
def EscapeFault.message : EscapeFault → Text
  | truncated letter digits =>
    "truncated \\" ++ (letter :: Text.fill digits 'X') ++ " escape"
  | noCharacter => "illegal Unicode character"
  | unnamed => "malformed \\N character escape"
  | unknownName => "unknown Unicode character name"

/-- What is wrong with a field of a text. -/
inductive FieldFault where
  | backslash
  | comment
  | unterminated
  | tooDeep
  | tooManyBrackets
  | unmatched (bracket : Char)
  | mismatched (opening closing : Char)
  | empty
  | emptyBefore (sign : Char)
  | conversion
  | unclosed
  | singleBrace
  deriving DecidableEq, Repr

/-- The text of the error. -/
def FieldFault.message : FieldFault → Text
  | backslash => "f-string expression part cannot include a backslash"
  | comment => "f-string expression part cannot include '#'"
  | unterminated => "f-string: unterminated string"
  | tooDeep => "f-string: expressions nested too deeply"
  | tooManyBrackets => "f-string: too many nested parenthesis"
  | unmatched c => "f-string: unmatched '" ++ [c, '\'']
  | mismatched o c =>
    "f-string: closing parenthesis '" ++ [c] ++ "' does not match opening parenthesis '" ++
      [o, '\'']
  | empty => "f-string: empty expression not allowed"
  | emptyBefore c => "f-string: expression required before '" ++ [c, '\'']
  | conversion => "f-string: invalid conversion character: expected 's', 'r', or 'a'"
  | unclosed => "f-string: expecting '\x7d'"
  | singleBrace => "f-string: single '\x7d' is not allowed"

/-- What is wrong with the parameters of a function. -/
inductive ParameterFault where
  /-- A parameter without a default follows one that has one. -/
  | noDefault
  | parenthesized
  | slashFirst
  | slashTwice
  | slashBehindStar
  | slashBeforeStar
  | bareStar
  | starDefault
  | starTwice
  | doubleStarDefault
  | behindDoubleStar
  | emptyDefault
  deriving DecidableEq, Repr

/-- The text of the error. -/
def ParameterFault.message : ParameterFault → Text
  | noDefault => "non-default argument follows default argument"
  | parenthesized => "Lambda expression parameters cannot be parenthesized"
  | slashFirst => "at least one argument must precede /"
  | slashTwice => "/ may appear only once"
  | slashBehindStar => "/ must be ahead of *"
  | slashBeforeStar => "expected comma between / and *"
  | bareStar => "named arguments must follow bare *"
  | starDefault => "var-positional argument cannot have default value"
  | starTwice => "* argument may appear only once"
  | doubleStarDefault => "var-keyword argument cannot have default value"
  | behindDoubleStar => "arguments cannot follow var-keyword argument"
  | emptyDefault => "expected default value expression"

/-- What is wrong with the arguments of a call. -/
inductive ArgumentFault where
  /-- Unpacked values follow an unpacked dictionary. -/
  | starBehindDoubleStar
  | generator
  | positional
  | positionalBehindDoubleStar
  | assignment
  | keyword (t : Text)
  deriving DecidableEq, Repr

/-- The text of the error. -/
def ArgumentFault.message : ArgumentFault → Text
  | starBehindDoubleStar =>
    "iterable argument unpacking follows keyword argument unpacking"
  | generator => "Generator expression must be parenthesized"
  | positional => "positional argument follows keyword argument"
  | positionalBehindDoubleStar => "positional argument follows keyword argument unpacking"
  | assignment => "expression cannot contain assignment, perhaps you meant \"==\"?"
  | keyword t => "cannot assign to " ++ t

/-- What is wrong with brackets and what stands in them. -/
inductive DisplayFault where
  | star
  | doubleStar
  | unpackedComprehension
  | unpackedDictionary
  | bareTarget
  | noColon
  | noValue
  | starredValue
  deriving DecidableEq, Repr

/-- The text of the error. -/
def DisplayFault.message : DisplayFault → Text
  | star => "cannot use starred expression here"
  | doubleStar => "cannot use double starred expression here"
  | unpackedComprehension => "iterable unpacking cannot be used in comprehension"
  | unpackedDictionary => "dict unpacking cannot be used in dict comprehension"
  | bareTarget => "did you forget parentheses around the comprehension target?"
  | noColon => "':' expected after dictionary key"
  | noValue => "expression expected after dictionary key and ':'"
  | starredValue => "cannot use a starred expression in a dictionary value"

/-- What is wrong with the lines of a text. -/
inductive LineFault where
  /-- Something follows a backslash that joins two lines. -/
  | continuation
  /-- The text ends behind such a backslash. -/
  | cutOff
  | indent
  | unindent
  | dedent
  | tabs
  | tooDeep
  deriving DecidableEq, Repr

/-- The text of the error. -/
def LineFault.message : LineFault → Text
  | continuation => "unexpected character after line continuation character"
  | cutOff => "unexpected EOF while parsing"
  | indent => "unexpected indent"
  | unindent => "unexpected unindent"
  | dedent => "unindent does not match any outer indentation level"
  | tabs => "inconsistent use of tabs and spaces in indentation"
  | tooDeep => "too many levels of indentation"

/-- Why a text is no expression. -/
inductive Fault where
  /-- A closing bracket where none is open. -/
  | unmatched (closing : Char)
  /-- A closing bracket of another kind than the open one, whose line is given if it is another. -/
  | mismatched (opening closing : Char) (line : Option Nat)
  /-- An opening bracket that is not closed. -/
  | unclosed (opening : Char)
  | tooManyBrackets
  /-- A text without its closing quotes, and the line where that is seen. -/
  | unterminated (triple : Bool) (line : Nat)
  | numeral (kind : NumeralKind)
  | digit (d : Char) (kind : NumeralKind)
  | leadingZeros
  /-- A numeral of this many digits, which is more than allowed. -/
  | longNumeral (digits : Nat)
  | character (c : Char)
  | line (f : LineFault)
  /-- An escape in a text, from one position of its bytes to another. -/
  | escape (start stop : Nat) (f : EscapeFault)
  /-- An escape in bytes. -/
  | byteEscape (position : Nat)
  | nonAsciiBytes
  | mixedTexts
  | field (f : FieldFault)
  /-- Two expressions side by side in brackets. -/
  | comma
  /-- A condition without the other branch. -/
  | noElse
  /-- A function that was a statement once, without its parentheses. -/
  | formerStatement (t : Text)
  /-- A single equals sign behind a name. -/
  | equals
  /-- A single equals sign behind what is no name. -/
  | assigned (designation : Text)
  /-- The sign of an assignment in an expression behind what is no name. -/
  | walrus (designation : Text)
  /-- The variable of a loop that can be none. -/
  | target (designation : Text)
  | parameter (f : ParameterFault)
  | argument (f : ArgumentFault)
  | display (f : DisplayFault)
  /-- Nothing better is known. -/
  | disorder
  /-- The rules of the expression are nested too deeply to tell. -/
  | tooDeep
  /-- A fault in a field of a text. -/
  | inField (f : Fault)
  deriving DecidableEq, Repr

namespace Fault

/-- A code point in capital hexadecimal digits. -/
def codeText (c : Char) : Text := "U+" ++ (Text.ofHexPadded 4 c.toNat).map Char.toUpper

/-- What opens the text of a syntax error that suggests something. -/
def suggestion (t : Text) : Text := "invalid syntax. " ++ t

/-- The text of the error. -/
def message : Fault → Text
  | unmatched c => "unmatched '" ++ [c, '\'']
  | mismatched o c place =>
    "closing parenthesis '" ++ [c] ++ "' does not match opening parenthesis '" ++ [o, '\''] ++
      ((place.map fun n => " on line " ++ Text.ofNat n).getD [])
  | unclosed c => '\'' :: c :: "' was never closed"
  | tooManyBrackets => "too many nested parentheses"
  | unterminated triple place =>
    "unterminated " ++ (if triple then "triple-quoted ".toList else []) ++
      "string literal (detected at line " ++ Text.ofNat place ++ ")"
  | numeral kind => "invalid " ++ kind.name ++ " literal"
  | digit d kind => "invalid digit '" ++ [d] ++ "' in " ++ kind.name ++ " literal"
  | leadingZeros =>
    "leading zeros in decimal integer literals are not permitted; use an 0o prefix for octal " ++
      "integers"
  | longNumeral n =>
    (Numeral.Problem.tooLong n).message ++
      " - Consider hexadecimal for huge integer literals to avoid decimal conversion limits."
  | character c =>
    if Text.isPrintable c then "invalid character '" ++ [c] ++ "' (" ++ codeText c ++ ")"
    else "invalid non-printable character " ++ codeText c
  | line f => f.message
  | escape start stop f =>
    "(unicode error) 'unicodeescape' codec can't decode bytes in position " ++ Text.ofNat start ++
      "-" ++ Text.ofNat stop ++ ": " ++ f.message
  | byteEscape position => "(value error) invalid \\x escape at position " ++ Text.ofNat position
  | nonAsciiBytes => "bytes can only contain ASCII literal characters"
  | mixedTexts => "cannot mix bytes and nonbytes literals"
  | field f => f.message
  | comma => suggestion "Perhaps you forgot a comma?"
  | noElse => "expected 'else' after 'if' expression"
  | formerStatement t =>
    "Missing parentheses in call to '" ++ t ++ "'. Did you mean " ++ t ++ "(...)?"
  | equals => suggestion "Maybe you meant '==' or ':=' instead of '='?"
  | assigned t => "cannot assign to " ++ t ++ " here. Maybe you meant '==' instead of '='?"
  | walrus t => "cannot use assignment expressions with " ++ t
  | target t => "cannot assign to " ++ t
  | parameter f => f.message
  | argument f => f.message
  | display f => f.message
  | disorder => "invalid syntax"
  | tooDeep => []
  | inField f => "f-string: " ++ f.message

end Fault

end ChangeFeed.Expression
