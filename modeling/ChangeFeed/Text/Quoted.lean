import ChangeFeed.Text.Printable

/-!
Quoted texts, as they appear in messages.

The quotes are single ones unless the text holds a single quote and no double quote. A backslash,
the quote itself and the characters that cannot be shown are escaped, so that the quoted form stands
on one line.
-/

namespace ChangeFeed.Text

/-- The backslash escape of a code point, as short as its size allows. -/
def codeEscape (n : Nat) : Text :=
  if n < 0x100 then '\\' :: 'x' :: ofHexPadded 2 n
  else if n < 0x10000 then '\\' :: 'u' :: ofHexPadded 4 n
  else '\\' :: 'U' :: ofHexPadded 8 n

/-- One character inside the given quotes. -/
def quotedChar (quote c : Char) : Text :=
  if c = quote ∨ c = '\\' then ['\\', c]
  else if c = '\n' then ['\\', 'n']
  else if c = '\r' then ['\\', 'r']
  else if c = '\t' then ['\\', 't']
  else if isPrintable c then [c]
  else codeEscape c.toNat

/-- The quotes around a text. -/
def quoteFor (t : Text) : Char := if t.contains '\'' && !t.contains '"' then '"' else '\''

/-- A text between quotes, with every character that cannot be printed escaped. -/
def quoted (t : Text) : Text :=
  let q := quoteFor t
  q :: t.flatMap (quotedChar q) ++ [q]

end ChangeFeed.Text
