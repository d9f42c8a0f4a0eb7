import ChangeFeed.Yaml.Cursor
import ChangeFeed.Yaml.Scalar

/-!
Anchors, tags and directives as they stand in a document.

A tag is a handle and a suffix; what the handle stands for is said by a directive in front of the
document. A tag in angle brackets has no handle and is its own full name.
-/

namespace ChangeFeed.Yaml

/-- A tag as it is written. -/
structure TagMark where
  handle : Option Text
  suffix : Text
  deriving DecidableEq, Repr

/-- The tag that leaves a node to be what it looks like. -/
def TagMark.open : TagMark := ⟨none, "!"⟩

/-- What a directive says. -/
inductive Directive where
  /-- The first number of the version. -/
  | version (major : Nat)
  /-- What a tag handle stands for. -/
  | handle (name meaning : Text)
  | other
  deriving DecidableEq, Repr

/-- The name of an anchor behind its mark, and the place behind. -/
def scanAnchor (cur : Cursor) : Except SyntaxProblem (Text × Cursor) :=
  let (name, next) := cur.span isNameCharacter
  let ends (c : Char) := isGap c || "?:,]\x7d%@".toList.contains c || c.toNat == 0x60
  if name ≠ [] ∧ next.rest.head?.all ends then .ok (name, next) else .error .anchor

/-- The handle at a cursor, and the place behind. -/
def scanHandle (cur : Cursor) : Except SyntaxProblem (Text × Cursor) :=
  match cur.rest with
  | '!' :: ' ' :: _ => .ok ("!", cur.advance 1)
  | '!' :: _ =>
    let (name, next) := (cur.advance 1).span isNameCharacter
    if next.rest.head? = some '!' then .ok ('!' :: name ++ ['!'], next.advance 1)
    else .error .tag
  | _ => .error .tag

/-- Whether a character can stand in the suffix of a tag. -/
def isSuffixCharacter (c : Char) : Bool :=
  Text.isAsciiLetter c || Text.isAsciiDigit c || "-;/?:@&=+$,_.!~*'()[]".toList.contains c

/-- The bytes of the escapes at the start of a text, and what follows them. -/
def scanBytes : Text → Option (List UInt8 × Text)
  | '%' :: a :: b :: t => do
    let high ← Text.hexValue? a
    let low ← Text.hexValue? b
    let (bytes, rest) ← scanBytes t
    return (UInt8.ofNat (16 * high + low) :: bytes, rest)
  | '%' :: _ => none
  | t => some ([], t)

/-- The suffix of a tag at the start of a text, and what follows it; escapes by bytes stand for the
characters that the bytes encode. -/
def suffixOf : Nat → Text → Except SyntaxProblem (Text × Text)
  | 0, _ => .error .tag
  | fuel + 1, t =>
    match t with
    | [] => .ok ([], [])
    | c :: u =>
      if c = '%' then
        match scanBytes t with
        | none => .error .tag
        | some (bytes, rest) =>
          match String.fromUTF8? ⟨bytes.toArray⟩ with
          | some s => (suffixOf fuel rest).map fun r => (s.toList ++ r.1, r.2)
          | none => .error .tag
      else if isSuffixCharacter c then (suffixOf fuel u).map fun r => (c :: r.1, r.2)
      else .ok ([], t)

/-- The suffix of a tag at a cursor, which is not empty, and the place behind. -/
def scanSuffix (cur : Cursor) : Except SyntaxProblem (Text × Cursor) := do
  let (suffix, rest) ← suffixOf (cur.rest.length + 1) cur.rest
  if rest.length < cur.rest.length then
    return (suffix, cur.advance (cur.rest.length - rest.length))
  else throw .tag

/-- The tag at a cursor, and the place behind, where space or nothing has to come. -/
def scanTag (cur : Cursor) : Except SyntaxProblem (TagMark × Cursor) := do
  let t := cur.rest.drop 1
  let (mark, next) ←
    if t.head? = some '<' then do
      let (suffix, next) ← scanSuffix (cur.advance 2)
      if next.rest.head? = some '>' then pure (⟨none, suffix⟩, next.advance 1) else throw .tag
    else if gapNext t then pure (TagMark.open, cur.advance 1)
    else do
      let named := (t.takeWhile fun c => !(c == ' ' || isBreak c)).contains '!'
      let (handle, next) ← if named then scanHandle cur else pure (['!'], cur.advance 1)
      let (suffix, next) ← scanSuffix next
      pure (⟨some handle, suffix⟩, next)
  if marginNext next.rest then return (mark, next) else throw .tag

/-- The number of a version at a cursor, and the place behind. -/
def scanVersionNumber (cur : Cursor) : Except SyntaxProblem (Nat × Cursor) :=
  let (ds, next) := cur.span Text.isAsciiDigit
  match ds, Numeral.ofDecimals? ds with
  | _ :: _, .ok n => .ok (n, next)
  | _, _ => .error .directive

/-- What a directive says behind its name, and the place behind. -/
def scanDirectiveValue (name : Text) (cur : Cursor) :
    Except SyntaxProblem (Directive × Cursor) := do
  let cur := cur.dropWhile (· == ' ')
  if name = "YAML".toList then
    let (major, next) ← scanVersionNumber cur
    if next.rest.head? ≠ some '.' then throw .directive
    let (_, next) ← scanVersionNumber (next.advance 1)
    if marginNext next.rest then return (.version major, next) else throw .directive
  else if name = "TAG".toList then
    let (handle, next) ← scanHandle cur
    if next.rest.head? ≠ some ' ' then throw .directive
    let (meaning, next) ← scanSuffix (next.dropWhile (· == ' '))
    if marginNext next.rest then return (.handle handle meaning, next) else throw .directive
  else return (.other, cur.dropWhile (!isBreak ·))

/-- The directive behind its mark, and the place behind its line. -/
def scanDirective (cur : Cursor) : Except SyntaxProblem (Directive × Cursor) := do
  let (name, next) := cur.span isNameCharacter
  if name = [] ∨ marginNext next.rest = false then throw .directive
  let (directive, next) ← scanDirectiveValue name next
  let last := next.dropMargin
  if breakNext last.rest then return (directive, last.advance 1) else throw .directive

end ChangeFeed.Yaml
