import ChangeFeed.Text.Blank
import ChangeFeed.Text.LetterCase
import ChangeFeed.Text.Numeral

/-!
Names of styles.

A style is given by words for its attributes and colours, in any order and with short names. Two
names are the same when they describe the same style; a name that describes none is compared as a
text, whatever its case.
-/

namespace ChangeFeed.Markup

/-- The colours with several shades, and the marks of the shades. -/
def shadedColors : List (String × List String) := [
  ("blue", ["1", "3"]), ("deep_sky_blue", ["1", "2", "3", "4"]), ("dodger_blue", ["1", "2", "3"]),
  ("green", ["1", "3", "4"]), ("spring_green", ["1", "2", "3", "4"]),
  ("turquoise", ["2", "4"]), ("cyan", ["1", "2", "3"]), ("purple", ["3", "4"]),
  ("medium_purple", ["", "1", "2", "3", "4"]), ("slate_blue", ["1", "3"]), ("royal_blue", ["1"]),
  ("chartreuse", ["1", "2", "3", "4"]), ("pale_turquoise", ["1", "4"]),
  ("steel_blue", ["", "1", "3"]), ("dark_sea_green", ["", "1", "2", "3", "4"]),
  ("sky_blue", ["1", "2", "3"]), ("sea_green", ["1", "2", "3"]), ("aquamarine", ["1", "3"]),
  ("dark_slate_gray", ["1", "2", "3"]), ("orange", ["1", "3", "4"]),
  ("light_pink", ["1", "3", "4"]), ("plum", ["1", "2", "3", "4"]), ("wheat", ["1", "4"]),
  ("yellow", ["1", "2", "3", "4"]), ("light_sky_blue", ["1", "3"]), ("pale_green", ["1", "3"]),
  ("deep_pink", ["1", "2", "3", "4"]), ("medium_orchid", ["", "1", "3"]),
  ("navajo_white", ["1", "3"]), ("light_steel_blue", ["", "1", "3"]),
  ("dark_olive_green", ["1", "2", "3"]), ("light_cyan", ["1", "3"]), ("red", ["1", "3"]),
  ("magenta", ["1", "2", "3"]), ("dark_orange", ["", "3"]), ("indian_red", ["", "1"]),
  ("hot_pink", ["", "2", "3"]), ("orchid", ["", "1", "2"]), ("light_salmon", ["1", "3"]),
  ("pink", ["1", "3"]), ("gold", ["1", "3"]), ("light_goldenrod", ["1", "2", "3"]),
  ("misty_rose", ["1", "3"]), ("thistle", ["1", "3"]), ("khaki", ["1", "3"]),
  ("light_yellow", ["3"]), ("honeydew", ["2"]), ("orange_red", ["1"]), ("salmon", ["1"]),
  ("pale_violet_red", ["1"]), ("cornsilk", ["1"]), ("light_slate_gr", ["ay", "ey"])]

/-- The colours with one shade. -/
def plainColors : List String := [
  "default", "black", "red", "green", "yellow", "blue", "magenta", "cyan", "white", "navy_blue",
  "dark_blue", "dark_green", "dark_cyan", "light_sea_green", "dark_turquoise",
  "medium_spring_green", "blue_violet", "cornflower_blue", "cadet_blue", "medium_turquoise",
  "dark_red", "dark_magenta", "light_slate_blue", "light_green", "medium_violet_red",
  "dark_violet", "purple", "dark_goldenrod", "rosy_brown", "dark_khaki", "green_yellow", "violet",
  "tan", "light_coral", "sandy_brown"]

/-- The colours that also have a bright shade. -/
def brightColors : List String :=
  ["black", "red", "green", "yellow", "blue", "magenta", "cyan", "white"]

/-- The shades of grey. -/
def greyShades : List Nat := [
  0, 3, 7, 11, 15, 19, 23, 27, 30, 35, 37, 39, 42, 46, 50, 53, 54, 58, 62, 63, 66, 69, 70, 74, 78,
  82, 84, 85, 89, 93, 100]

/-- The names of colours. -/
def colorNames : List Text :=
  plainColors.map String.toList ++
    shadedColors.flatMap (fun c => c.2.map fun shade => c.1.toList ++ shade.toList) ++
    brightColors.map (fun c => "bright_".toList ++ c.toList) ++
    greyShades.flatMap fun n => ["grey".toList ++ Text.ofNat n, "gray".toList ++ Text.ofNat n]

/-- The greatest number of a colour and of a part of one. -/
def maxByte : Int := 255

/-- Whether a text is the number of a colour. -/
def isColorNumber (t : Text) : Bool :=
  t != [] && t.length ≤ 3 && t.all Text.isAsciiDigit &&
    Numeral.ofDigits (t.map fun c => c.toNat - 48) ≤ maxByte

/-- Whether a text is three numbers for red, green and blue. Between two commas there has to be a
number. -/
def isMixture (t : Text) : Except Numeral.Problem Bool :=
  let parts := t.splitOn ','
  if parts.length = 3 ∧ t.all fun c => Text.isDecimal c || c == ',' then
    (parts.mapM Numeral.read).map fun ns => ns.all (· ≤ maxByte)
  else .ok false

/-- The text between a start and a closing parenthesis at the end. -/
def enclosed? (start t : Text) : Option Text :=
  (Text.rest? start t).bind fun r => if r.getLast? = some ')' then some r.dropLast else none

/-- Whether a word in small letters is a colour: a name, `#` with six hexadecimal digits, the number
of a colour, or three numbers for red, green and blue. -/
def isColor (t : Text) : Except Numeral.Problem Bool :=
  let isHex (r : Text) := r.length == 6 && r.all fun c => (Text.hexValue? c).isSome
  if colorNames.contains t || (Text.rest? "#" t).any isHex ||
      (enclosed? "color(" t).any isColorNumber then .ok true
  else ((enclosed? "rgb(" t).map isMixture).getD (.ok false)

/-- The attributes in the order in which they are named. -/
def attributes : List String := [
  "bold", "dim", "italic", "underline", "blink", "blink2", "reverse", "conceal", "strike",
  "underline2", "frame", "encircle", "overline"]

/-- The short names of attributes. -/
def shortNames : List (String × String) := [
  ("b", "bold"), ("d", "dim"), ("i", "italic"), ("u", "underline"), ("r", "reverse"),
  ("c", "conceal"), ("s", "strike"), ("uu", "underline2"), ("o", "overline")]

/-- The attribute that a word names. -/
def attribute? (t : Text) : Option String :=
  let name := String.ofList t
  if attributes.contains name then some name else shortNames.lookup name

/-- What a name says about a style. -/
structure Style where
  /-- Attributes that are on or off, the latest word on each first. -/
  switches : List (String × Bool) := []
  color : Option Text := none
  background : Option Text := none
  link : Option Text := none
  deriving DecidableEq, Repr

namespace Style

/-- A style with what further words say, if all of them say something. -/
def addWords (s : Style) : List Text → Except Numeral.Problem (Option Style)
  | [] => .ok (some s)
  | word :: ws => do
    let w := Text.lower word
    if w = "on".toList then
      match ws with
      | c :: ws =>
        if ← isColor (Text.lower c) then addWords { s with background := some (Text.lower c) } ws
        else return none
      | [] => return none
    else if w = "not".toList then
      match ws with
      | a :: ws =>
        match attribute? a with
        | some a => addWords { s with switches := (a, false) :: s.switches } ws
        | none => return none
      | [] => return none
    else if w = "link".toList then
      match ws with
      | url :: ws => addWords { s with link := some url } ws
      | [] => return none
    else match attribute? w with
      | some a => addWords { s with switches := (a, true) :: s.switches } ws
      | none =>
        if ← isColor w then addWords { s with color := some w } ws else return none

/-- The style that a name describes. -/
def ofName? (t : Text) : Except Numeral.Problem (Option Style) :=
  if Text.strip t = "none".toList then .ok (some {}) else ({} : Style).addWords (Text.words t)

/-- The words for a style, attributes first. -/
def describe (s : Style) : List Text :=
  let named := attributes.filterMap fun a =>
    (s.switches.lookup a).map fun on => (if on then [] else "not ".toList) ++ a.toList
  let background : Option Text := s.background.map ("on ".toList ++ ·)
  let link : Option Text := s.link.map ("link ".toList ++ ·)
  named ++ s.color.toList ++ background.toList ++ link.toList

end Style

/-- The name by which a style is known. -/
def styleName (t : Text) : Except Numeral.Problem Text := do
  match ← Style.ofName? t with
  | none => return Text.lower (Text.strip t)
  | some s => return if s.describe = [] then "none" else Text.join " " s.describe

end ChangeFeed.Markup
