import ChangeFeed.Template.Number

/-!
Templates: texts with named fields in braces.

A template is a list of pieces. A doubled brace is a brace; a field names a value, may pick a part
of it, may quote it, and may lay it out as a specification says, which may hold fields itself. A
piece that is broken ends the list, and is reported only if every piece before it can be filled in.
-/

namespace ChangeFeed.Template

/-- A field of a template. -/
structure Field where
  /-- The name, with the accessors behind it. -/
  name : Text
  /-- The letter behind the exclamation mark. -/
  conversion : Option Char
  /-- The specification behind the colon. -/
  spec : Text
  deriving DecidableEq, Repr

/-- A piece of a template. -/
inductive Piece where
  | literal (t : Text)
  | field (f : Field)
  | broken (p : Problem)
  deriving DecidableEq, Repr

/-- The name of a field with the character that ends it and what follows; brackets protect. -/
def scanName (bracketed : Bool) : Text → Except Problem (Text × Char × Text)
  | [] => .error .unclosedField
  | c :: t =>
    let keep (inside : Bool) := (scanName inside t).map fun r => (c :: r.1, r.2)
    if bracketed then keep (c != ']')
    else if c = '\x7b' then .error .braceInName
    else if c = '\x7d' ∨ c = ':' ∨ c = '!' then .ok ([], c, t)
    else keep (c == '[')

/-- A specification up to the brace that closes the field, `depth` braces being open inside. -/
def scanSpec (depth : Nat) : Text → Except Problem (Text × Text)
  | [] => .error .openSpec
  | c :: t =>
    let keep (d : Nat) := (scanSpec d t).map fun r => (c :: r.1, r.2)
    if c = '\x7b' then keep (depth + 1)
    else if c = '\x7d' then
      match depth with
      | 0 => .ok ([], t)
      | d + 1 => keep d
    else keep depth

/-- A field, given what follows its opening brace, and what follows its closing one. -/
def scanField (t : Text) : Except Problem (Field × Text) := do
  let (name, stop, t) ← scanName false t
  if stop = '\x7d' then return (⟨name, none, []⟩, t)
  else if stop = ':' then
    let (spec, t) ← scanSpec 0 t
    return (⟨name, none, spec⟩, t)
  else match t with
    | [] => throw .missingConversion
    | c :: '\x7d' :: t => return (⟨name, some c, []⟩, t)
    | c :: ':' :: t =>
      let (spec, t) ← scanSpec 0 t
      return (⟨name, some c, spec⟩, t)
    | [_] => throw .openSpec
    | _ :: _ :: _ => throw .colonAfterConversion

/-- The pieces of a template, as many as `fuel` allows. -/
def piecesFrom : Nat → Text → List Piece
  | 0, _ => []
  | fuel + 1, t =>
    match t with
    | [] => []
    | '\x7b' :: '\x7b' :: t => .literal ['\x7b'] :: piecesFrom fuel t
    | '\x7d' :: '\x7d' :: t => .literal ['\x7d'] :: piecesFrom fuel t
    | '\x7d' :: _ => [.broken .singleClose]
    | ['\x7b'] => [.broken .singleOpen]
    | '\x7b' :: t =>
      match scanField t with
      | .ok (f, t) => .field f :: piecesFrom fuel t
      | .error p => [.broken p]
    | c :: t => .literal [c] :: piecesFrom fuel t

/-- The pieces of a template. -/
def pieces (t : Text) : List Piece := piecesFrom (t.length + 1) t

/-- The number that a whole text stands for, if it is one. -/
def wholeNumber? (t : Text) : Except Problem (Option Nat) :=
  match readNumber t with
  | .error e => .error e
  | .ok (n, rest) => .ok (if rest = [] then n else none)

/-- What a key in brackets picks from a value. -/
def pickKey (key : Key) : Value → Except Problem Value
  | .table t =>
    match Table.get? key t with
    | some v => .ok v
    | none => .error (.unknownKey key)
  | .text _ | .broken _ => .error (.misuse (.notCharacterPosition key.toValue.kindName))
  | .list _ => .error (.misuse (.notPosition key.toValue.kindName))
  | v => .error (.misuse (.notSubscriptable v.kindName))

/-- What a number in brackets picks from a value. -/
def pickNumber (n : Nat) : Value → Except Problem Value
  | .text t =>
    match t[n]? with
    | some c => .ok (.text [c])
    | none => .error .beyondEnd
  | .broken t =>
    match t.points[n]? with
    | some p => .ok (.ofPoints [p])
    | none => .error .beyondEnd
  | .list vs =>
    match vs[n]? with
    | some v => .ok v
    | none => .error (.misuse .noElement)
  | v => pickKey (.int n) v

/-- What an index in brackets picks from a value. -/
def pick (index : Text) (v : Value) : Except Problem Value := do
  match ← wholeNumber? index with
  | none => if index = [] then throw .emptyAccessor else pickKey (.text index) v
  | some n => pickNumber n v

/-- What the accessors behind a name pick from its value, as many as `fuel` allows. -/
def access : Nat → Value → Text → Except Problem Value
  | 0, v, _ => .ok v
  | fuel + 1, v, t =>
    match t with
    | [] => .ok v
    | '.' :: t =>
      let name := t.takeWhile fun c => c != '.' && c != '['
      .error (if name = [] then .emptyAccessor else .misuse (.noMember v.kindName name))
    | '[' :: t =>
      match Text.cut? ']' t with
      | none => .error .openBracket
      | some (index, t) => pick index v >>= fun v => access fuel v t
    | _ => .error .junkAfterBracket

/-- The values that fields can name. -/
abbrev Fields := List (Text × Value)

/-- The value that the name of a field, with its accessors, stands for. -/
def resolve (fields : Fields) (name : Text) : Except Problem Value := do
  let first := name.takeWhile fun c => c != '.' && c != '['
  let accessors := name.drop first.length
  match ← wholeNumber? first with
  | some n => throw (.positional n)
  | none =>
    if first = [] then throw (.positional 0)
    match fields.lookup first with
    | none => throw (.unknownKey (.text first))
    | some v => access (accessors.length + 1) v accessors

/-- A literal with every character outside ASCII escaped. -/
def asciiOnly (t : Text) : Text :=
  t.flatMap fun c => if c.toNat < 128 then [c] else Text.codeEscape c.toNat

/-- A value converted as the letter behind the exclamation mark says. -/
def convert : Option Char → Value → Except Problem Value
  | none, v | some '\x00', v => .ok v
  | some 's', v => .ok (.ofPoints v.points)
  | some 'r', v => .ok (.text v.literal)
  | some 'a', v => .ok (.text (asciiOnly v.literal))
  | some c, _ => .error (.unknownConversion c)

/-- A template filled in, with specifications that may nest `depth` levels deep. -/
def fillIn (fields : Fields) : Nat → Text → Except Problem Text
  | 0, _ => .error .tooDeep
  | depth + 1, t => do
    let filled ← (pieces t).mapM fun
      | .literal l => pure l
      | .broken p => throw p
      | .field f => do
        let value ← resolve fields f.name >>= convert f.conversion
        let spec ← if f.spec.contains '\x7b' then fillIn fields depth f.spec else pure f.spec
        layOut spec value
    return filled.flatten

/-- A template with its fields filled in. -/
def render (fields : Fields) (t : Text) : Except Problem Text := fillIn fields 2 t

end ChangeFeed.Template
