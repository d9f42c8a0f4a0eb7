import ChangeFeed.Value.Literal
import ChangeFeed.Value.Misuse

/-!
What can be wrong with a template or with a field in it.
-/

namespace ChangeFeed.Template

/-- Why a template cannot be filled in. -/
inductive Problem where
  | singleClose
  | singleOpen
  | braceInName
  | missingConversion
  | colonAfterConversion
  | openSpec
  | unclosedField
  | tooManyDigits
  | junkAfterBracket
  | emptyAccessor
  | openBracket
  | unknownConversion (c : Char)
  | tooDeep
  | unknownKey (key : Key)
  | positional (index : Nat)
  | beyondEnd
  /-- A value does not allow what a field asks of it. -/
  | misuse (m : Misuse)
  | bothSeparators
  | separator (mark type : Char)
  | missingPrecision
  | invalidSpec (spec kind : Text)
  | unknownType (c : Char) (kind : Text)
  | signOnText (sign : Char)
  | zeroOnText
  | alternateOnText
  | equalsOnText
  | precisionOnInteger
  | zeroOnInteger
  | signOnCharacter
  | alternateOnCharacter
  /-- No character has this number. -/
  | noCharacter
  /-- A whole number is too large to be a real one. -/
  | hugeReal
  | hugePrecision
  deriving DecidableEq, Repr

/-- A character in a message: as it stands if it is below `limit`, else as an escape. -/
def shownBelow (limit : Nat) (c : Char) : Text :=
  if 32 < c.toNat ∧ c.toNat < limit then [c] else "\\x" ++ Text.ofHex c.toNat

namespace Problem

/-- The kind of error, as reports name it. -/
def kind : Problem → Text
  | unknownKey _ => "KeyError"
  | positional _ | beyondEnd => "IndexError"
  | misuse m => m.kind
  | noCharacter | hugeReal => "OverflowError"
  | _ => "ValueError"

/-- The text of the error. -/
def message : Problem → Text
  | singleClose => "Single '\x7d' encountered in format string"
  | singleOpen => "Single '\x7b' encountered in format string"
  | braceInName => "unexpected '\x7b' in field name"
  | missingConversion => "end of string while looking for conversion specifier"
  | colonAfterConversion => "expected ':' after conversion specifier"
  | openSpec => "unmatched '\x7b' in format spec"
  | unclosedField => "expected '\x7d' before end of string"
  | tooManyDigits => "Too many decimal digits in format string"
  | junkAfterBracket => "Only '.' or '[' may follow ']' in format field specifier"
  | emptyAccessor => "Empty attribute in format string"
  | openBracket => "Missing ']' in format string"
  | unknownConversion c => "Unknown conversion specifier " ++ shownBelow 127 c
  | tooDeep => "Max string recursion exceeded"
  | unknownKey key => key.literal
  | positional index =>
    "Replacement index " ++ Text.ofNat index ++ " out of range for positional args tuple"
  | beyondEnd => "string index out of range"
  | misuse m => m.message
  | bothSeparators => "Cannot specify both ',' and '_'."
  | separator mark type => "Cannot specify '" ++ [mark] ++ "' with '" ++ shownBelow 128 type ++ "'."
  | missingPrecision => "Format specifier missing precision"
  | invalidSpec spec k =>
    "Invalid format specifier '" ++ spec ++ "' for object of type '" ++ k ++ "'"
  | unknownType c k =>
    "Unknown format code '" ++ shownBelow 128 c ++ "' for object of type '" ++ k ++ "'"
  | signOnText ' ' => "Space not allowed in string format specifier"
  | signOnText _ => "Sign not allowed in string format specifier"
  | zeroOnText => "Negative zero coercion (z) not allowed in string format specifier"
  | alternateOnText => "Alternate form (#) not allowed in string format specifier"
  | equalsOnText => "'=' alignment not allowed in string format specifier"
  | precisionOnInteger => "Precision not allowed in integer format specifier"
  | zeroOnInteger => "Negative zero coercion (z) not allowed in integer format specifier"
  | signOnCharacter => "Sign not allowed with integer format specifier 'c'"
  | alternateOnCharacter => "Alternate form (#) not allowed with integer format specifier 'c'"
  | noCharacter => "%c arg not in range(0x110000)"
  | hugeReal => "int too large to convert to float"
  | hugePrecision => "precision too big"

end Problem

end ChangeFeed.Template
