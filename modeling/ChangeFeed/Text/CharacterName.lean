import ChangeFeed.Text.Blank
import ChangeFeed.Text.CharacterName.Letter
import ChangeFeed.Text.CharacterName.Symbol
import ChangeFeed.Text.CodeRange

/-!
Names of characters.

A name is known if it is that of a common letter or symbol, of a Chinese character or of a Korean
syllable. Only in names of the first kind do capital and small letters count alike.
-/

namespace ChangeFeed.Text

namespace CharacterName

/-- The names that an entry of a table holds. -/
def ofEntry (e : String × String) : List Text :=
  (e.2.toList.splitOn ';').map fun ending =>
    if e.1 = "" then strip ending else e.1.toList ++ ' ' :: strip ending

/-- Whether a table holds a name in capital letters. -/
def isIn (table : List (String × String)) (name : Text) : Bool :=
  table.any fun e => startsWith e.1.toList name && (ofEntry e).contains name

/-- The code points of Chinese characters that are named by their numbers. -/
def ideographRanges : List (Nat × Nat) := [
  (0x3400, 0x4dbf), (0x4e00, 0x9fff), (0x20000, 0x2a6df), (0x2a700, 0x2b738), (0x2b740, 0x2b81d),
  (0x2b820, 0x2cea1), (0x2ceb0, 0x2ebe0), (0x30000, 0x3134a)]

/-- Whether a name is that of a Chinese character: four or five capital hexadecimal digits. -/
def isIdeograph (name : Text) : Bool :=
  match rest? "CJK UNIFIED IDEOGRAPH-" name with
  | some digits =>
    (digits.length == 4 || digits.length == 5) &&
      digits.all (fun c => isAsciiDigit c || ('A' ≤ c && c ≤ 'F')) &&
      let code := (digits.filterMap hexValue?).foldl (fun n d => 16 * n + d) 0
      ideographRanges.any fun r => r.1 ≤ code && code ≤ r.2
  | none => false

/-- How a Korean syllable can start. -/
def initials : List String := [
  "G", "GG", "N", "D", "DD", "R", "M", "B", "BB", "S", "SS", "", "J", "JJ", "C", "K", "T", "P", "H"]

/-- The vowels of Korean syllables. -/
def vowels : List String := [
  "A", "AE", "YA", "YAE", "EO", "E", "YEO", "YE", "O", "WA", "WAE", "OE", "YO", "U", "WEO", "WE",
  "WI", "YU", "EU", "YI", "I"]

/-- How a Korean syllable can end. -/
def finals : List String := [
  "", "G", "GG", "GS", "N", "NJ", "NH", "D", "L", "LG", "LM", "LB", "LS", "LT", "LP", "LH", "M",
  "B", "BS", "S", "SS", "NG", "J", "C", "K", "T", "P", "H"]

/-- Whether a name is that of a Korean syllable. -/
def isSyllable (name : Text) : Bool :=
  match rest? "HANGUL SYLLABLE " name with
  | some syllable =>
    initials.any fun i => (rest? i.toList syllable).any fun t =>
      vowels.any fun v => (rest? v.toList t).any fun u => finals.contains (String.ofList u)
  | none => false

end CharacterName

open CharacterName in
/-- Whether a text is the name of a character. -/
def isCharacterName (name : Text) : Bool :=
  let capitals := name.map Char.toUpper
  isIdeograph name || isSyllable name || isIn letters capitals || isIn symbols capitals

end ChangeFeed.Text
