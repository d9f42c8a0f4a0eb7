import ChangeFeed.Toml.Scalar

/-!
Reading TOML.

A document is read statement by statement: settings, and the headers of the sections that settings
belong to. A key is set once, a section is opened by a header once, unless its header adds it to a
list of sections, and a value in brackets or braces takes no further keys.
-/

namespace ChangeFeed.Toml

/-- A table with a value put at a path, where nothing stands yet; tables on the way are made. Where
a list of tables is on the way, the path leads through its last one if it may lead through
`lists`. -/
def putAt (lists : Bool) (v : Value) : List Text → Table → Option Table
  | [], _ => none
  | [k], t => if (Table.get? k t).isSome then none else some (Table.set k v t)
  | k :: ks, t =>
    match Table.get? k t with
    | none => (putAt lists v ks []).map fun inner => Table.set k (.table inner) t
    | some (.table inner) => (putAt lists v ks inner).map fun inner => Table.set k (.table inner) t
    | some (.list vs) =>
      match lists, vs.getLast? with
      | true, some (.table inner) =>
        (putAt lists v ks inner).map fun inner =>
          Table.set k (.list (vs.dropLast ++ [.table inner])) t
      | _, _ => none
    | some _ => none

/-- A table with a table at a path, which is made if nothing stands there. -/
def openAt : List Text → Table → Option Table
  | [], t => some t
  | k :: ks, t =>
    match Table.get? k t with
    | none => (openAt ks []).map fun inner => Table.set k (.table inner) t
    | some (.table inner) => (openAt ks inner).map fun inner => Table.set k (.table inner) t
    | some (.list vs) =>
      match vs.getLast? with
      | some (.table inner) =>
        (openAt ks inner).map fun inner => Table.set k (.list (vs.dropLast ++ [.table inner])) t
      | _ => none
    | some _ => none

/-- A table with one more table in the list at a path, which is made if nothing stands there. -/
def appendAt : List Text → Table → Option Table
  | [], _ => none
  | [k], t =>
    match Table.get? k t with
    | none => some (Table.set k (.list [.table []]) t)
    | some (.list vs) => some (Table.set k (.list (vs ++ [.table []])) t)
    | some _ => none
  | k :: ks, t =>
    match Table.get? k t with
    | none => (appendAt ks []).map fun inner => Table.set k (.table inner) t
    | some (.table inner) => (appendAt ks inner).map fun inner => Table.set k (.table inner) t
    | some (.list vs) =>
      match vs.getLast? with
      | some (.table inner) =>
        (appendAt ks inner).map fun inner => Table.set k (.list (vs.dropLast ++ [.table inner])) t
      | _ => none
    | some _ => none

/-- Whether one of some paths leads to a path or to a table around it. -/
def covers (paths : List (List Text)) (path : List Text) : Bool :=
  paths.any fun p => p.isPrefixOf path

/-- The nesting that is possible in a value. A list takes two steps of it, a table in braces
three. -/
def maxNesting : Nat := 975

mutual

/-- A value, and what follows it; `room` is the nesting that is left. -/
def scanValue : Nat → Nat → Text → Except SyntaxProblem (Value × Text)
  | 0, _, _ => .error .malformed
  | fuel + 1, room, t =>
    match t with
    | '"' :: _ | '\'' :: _ => (scanString t).map fun r => (.text r.1, r.2)
    | '[' :: t => do
      if room < 2 then throw .tooDeep
      let t ← skipLines t.length t
      match t with
      | ']' :: t => return (.list [], t)
      | t =>
        let (vs, t) ← scanElements fuel (room - 2) t
        return (.list vs, t)
    | '\x7b' :: t =>
      if room < 3 then .error .tooDeep
      else match skip t with
        | '\x7d' :: t => .ok (.table [], t)
        | t => (scanInline fuel (room - 3) [] [] t).map fun r => (.table r.1, r.2)
    | t =>
      match Text.rest? "true" t, Text.rest? "false" t with
      | some t, _ => .ok (.bool true, t)
      | _, some t => .ok (.bool false, t)
      | none, none => scanScalar t

/-- The elements of a list up to its closing bracket. -/
def scanElements : Nat → Nat → Text → Except SyntaxProblem (List Value × Text)
  | 0, _, _ => .error .malformed
  | fuel + 1, room, t => do
    let (v, t) ← scanValue fuel room t
    let t ← skipLines t.length t
    match t with
    | ']' :: t => return ([v], t)
    | ',' :: t =>
      let t ← skipLines t.length t
      match t with
      | ']' :: t => return ([v], t)
      | t =>
        let (vs, t) ← scanElements fuel room t
        return (v :: vs, t)
    | _ => throw .malformed

/-- The entries of a table in braces up to its closing brace; the values that are closed are
remembered. -/
def scanInline : Nat → Nat → List (List Text) → Table → Text →
    Except SyntaxProblem (Table × Text)
  | 0, _, _, _, _ => .error .malformed
  | fuel + 1, room, closed, before, t => do
    let (key, t) ← scanKey t.length t
    match t with
    | '=' :: t =>
      let (v, t) ← scanValue fuel room (skip t)
      if covers closed key then throw .malformed
      match putAt false v key before with
      | none => throw .malformed
      | some entries =>
        let closed := match v with
          | .table _ | .list _ => key :: closed
          | _ => closed
        match skip t with
        | '\x7d' :: t => return (entries, t)
        | ',' :: t => scanInline fuel room closed entries (skip t)
        | _ => throw .malformed
    | _ => throw .malformed

end

/-- What has been read of a document. -/
structure Document where
  root : Table := []
  /-- The section that settings go to. -/
  current : List Text := []
  /-- The sections that headers have opened, and the tables that dotted keys led through in earlier
  sections. -/
  opened : List (List Text) := []
  /-- The tables that dotted keys led through in the current section. -/
  passed : List (List Text) := []
  /-- The values that take no further keys. -/
  closed : List (List Text) := []

namespace Document

/-- The document whose current section has ended. -/
def endSection (d : Document) : Document := { d with opened := d.passed ++ d.opened, passed := [] }

/-- The document with a section opened by its header. -/
def openSection (d : Document) (path : List Text) : Except SyntaxProblem Document :=
  let d := d.endSection
  if d.opened.contains path || covers d.closed path then .error .malformed
  else match openAt path d.root with
    | some root => .ok { d with root, current := path, opened := path :: d.opened }
    | none => .error .malformed

/-- Paths without those that start with a given one. -/
def without (path : List Text) (paths : List (List Text)) : List (List Text) :=
  paths.filter fun p => !path.isPrefixOf p

/-- The document with one more section in a list of sections. What is known of the last one there
does not count for the new one. -/
def openElement (d : Document) (path : List Text) : Except SyntaxProblem Document :=
  let d := d.endSection
  if covers d.closed path then .error .malformed
  else match appendAt path d.root with
    | some root => .ok { d with
        root
        current := path
        opened := path :: without path d.opened
        closed := without path d.closed }
    | none => .error .malformed

/-- The paths of the tables that a dotted key leads through. -/
def through (current : List Text) : List Text → List (List Text)
  | [] | [_] => []
  | k :: ks => (current ++ [k]) :: through (current ++ [k]) ks

/-- The document with a setting of the current section. -/
def setKey (d : Document) (key : List Text) (v : Value) : Except SyntaxProblem Document :=
  let path := d.current ++ key
  let tables := through d.current key
  if tables.any d.opened.contains || covers d.closed path then .error .malformed
  else match putAt true v path d.root with
    | none => .error .malformed
    | some root =>
      let closed := match v with
        | .table _ | .list _ => path :: d.closed
        | _ => d.closed
      .ok { d with root, closed, passed := tables ++ d.passed }

end Document

/-- The document after one statement, and what follows the statement. -/
def statement (d : Document) (t : Text) : Except SyntaxProblem (Document × Text) := do
  match skip t with
  | [] => return (d, [])
  | '\n' :: t => return (d, t)
  | '#' :: t => return (d, ← endLine ('#' :: t))
  | '[' :: '[' :: t =>
    let (path, t) ← scanKey t.length (skip t)
    match t with
    | ']' :: ']' :: t => return (← d.openElement path, ← endLine t)
    | _ => throw .malformed
  | '[' :: t =>
    let (path, t) ← scanKey t.length (skip t)
    match t with
    | ']' :: t => return (← d.openSection path, ← endLine t)
    | _ => throw .malformed
  | t =>
    let (key, t) ← scanKey t.length t
    match t with
    | '=' :: t =>
      let u := skip t
      let (v, t) ← scanValue (2 * u.length + 2) maxNesting u
      return (← d.setKey key v, ← endLine t)
    | _ => throw .malformed

/-- The document after all statements, as many as `fuel` allows. -/
def statements : Nat → Document → Text → Except SyntaxProblem Document
  | 0, d, _ => .ok d
  | fuel + 1, d, t =>
    if t = [] then .ok d
    else match statement d t with
      | .ok (d, t) => statements fuel d t
      | .error p => .error p

/-- A text with each carriage return in front of a newline left out. -/
def joinReturns : Text → Text
  | '\r' :: '\n' :: t => '\n' :: joinReturns t
  | c :: t => c :: joinReturns t
  | [] => []

/-- The table of a document. -/
def read (t : Text) : Except SyntaxProblem Table :=
  let t := joinReturns t
  (statements (t.length + 1) {} t).map Document.root

end ChangeFeed.Toml
