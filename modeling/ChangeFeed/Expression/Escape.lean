import ChangeFeed.Expression.Fault
import ChangeFeed.Text.CharacterName

/-!
Escapes in the texts and bytes of an expression.

Positions count bytes of the text when every character above 127 is written as an escape of ten
bytes. A backslash in front of such a character, or at the end, stands for itself.
-/

namespace ChangeFeed.Expression.Escape

/-- A backslash as an escape. -/
def backslash : Text := "\\u005c"

/-- A character as escapes show it. -/
def plain (c : Char) : Text :=
  if c.toNat < 128 then [c] else "\\U" ++ Text.ofHexPadded 8 c.toNat

/-- A text in which characters above 127 are escapes. -/
def asciiOnly : Text → Text
  | [] => []
  | ['\\'] => backslash
  | '\\' :: c :: t => (if c.toNat < 128 then ['\\', c] else backslash ++ plain c) ++ asciiOnly t
  | c :: t => plain c ++ asciiOnly t

/-- The number of digits that an escape by number has. -/
def width? (letter : Char) : Option Nat :=
  if letter = 'x' then some 2
  else if letter = 'u' then some 4
  else if letter = 'U' then some 8
  else none

/-- What is wrong with an escape by number, in front of some text; with it comes how many digits
were read. -/
def numberFault? (letter : Char) (width : Nat) (t : Text) : Option (Nat × EscapeFault) :=
  let digits := (t.take width).takeWhile fun c => (Text.hexValue? c).isSome
  if digits.length < width then some (digits.length, .truncated letter width)
  else if 0x10ffff < (digits.filterMap Text.hexValue?).foldl (fun n d => 16 * n + d) 0 then
    some (width, .noCharacter)
  else none

/-- What is wrong with an escape by name, in front of some text; with it comes how many characters
were read. -/
def nameFault? (t : Text) : Option (Nat × EscapeFault) :=
  match t with
  | '\x7b' :: u =>
    let name := u.takeWhile (· != '\x7d')
    if name.length = u.length then some (t.length, .unnamed)
    else if name = [] then some (1, .unnamed)
    else if Text.isCharacterName name then none
    else some (name.length + 2, .unknownName)
  | _ => some (0, .unnamed)

/-- The first fault in the escapes of a text that starts at a position. -/
def firstFault? (position : Nat) : Text → Option Fault
  | '\\' :: c :: t =>
    let found := match width? c with
      | some n => numberFault? c n t
      | none => if c = 'N' then nameFault? t else none
    match found with
    | some (read, f) => some (.escape position (position + 1 + read) f)
    | none => firstFault? (position + 2) t
  | _ :: t => firstFault? (position + 1) t
  | [] => none

/-- Looks at the escapes of a text. -/
def check (t : Text) : Except Fault Unit :=
  match firstFault? 0 (asciiOnly t) with
  | some f => .error f
  | none => .ok ()

/-- The first fault in the escapes of bytes that start at a position. -/
def firstByteFault? (position : Nat) : Text → Option Fault
  | '\\' :: 'x' :: t =>
    let digits := (t.take 2).takeWhile fun c => (Text.hexValue? c).isSome
    if digits.length < 2 then some (.byteEscape position) else firstByteFault? (position + 2) t
  | '\\' :: _ :: t => firstByteFault? (position + 2) t
  | _ :: t => firstByteFault? (position + 1) t
  | [] => none

/-- Looks at the characters and the escapes of bytes. -/
def checkBytes (raw : Bool) (t : Text) : Except Fault Unit :=
  if t.any fun c => 128 ≤ c.toNat then .error .nonAsciiBytes
  else if raw then .ok ()
  else
    match firstByteFault? 0 t with
    | some f => .error f
    | none => .ok ()

end ChangeFeed.Expression.Escape
