import ChangeFeed.Yaml.Token

/-!
Nodes of a document.

A node is a scalar, a list or a table with its tag. An alias stands for the node that its anchor
names, which has to be complete; a name is given to one node only. What is left out between two
marks is null.
-/

namespace ChangeFeed.Yaml

/-- A scalar, a list or a table with its tag. -/
inductive Node where
  | scalar (tag : Tag) (t : Text)
  | list (tag : Tag) (items : List Node)
  | table (tag : Tag) (entries : List (Node × Node))
  deriving Repr

namespace Node

/-- The tag of a node. -/
def tag : Node → Tag
  | scalar g _ | list g _ | table g _ => g

/-- The node that stands where nothing does. -/
def missing : Node := .scalar .null []

/-- A reading of nodes: the tokens that are left, and the nodes that have a name; a node that is not
complete yet has no value. -/
structure Reading where
  tokens : List Token
  handles : List (Text × Text) := []
  anchors : List (Text × Option Node) := []
  deriving Repr

/-- A step of a reading. -/
abbrev Step (α : Type) := StateT Reading (Except SyntaxProblem) α

/-- The next token. -/
def next? : Step (Option Token) := return (← get).tokens.head?

/-- Whether one of some tokens, or the end, comes next. -/
def isNext (ts : List Token) : Step Bool := return (← next?).all ts.contains

/-- Passes the next token. -/
def pass : Step Unit := modify fun r => { r with tokens := r.tokens.drop 1 }

/-- Passes the next token, which has to be the given one. -/
def expect (t : Token) : Step Unit := do
  if (← next?) = some t then pass else throw .misplaced

/-- Passes the next token if it is the given one, and tells whether it was. -/
def passed (t : Token) : Step Bool := do
  if (← next?) = some t then
    pass
    return true
  else return false

/-- The anchor that comes next, if one does. -/
def anchor? : Step (Option Text) := do
  match ← next? with
  | some (.anchor name) =>
    pass
    return some name
  | _ => return none

/-- The tag that comes next, if one does. -/
def mark? : Step (Option TagMark) := do
  match ← next? with
  | some (.tag mark) =>
    pass
    return some mark
  | _ => return none

/-- The anchor and the tag in front of a node, in either order. -/
def properties : Step (Option Text × Option TagMark) := do
  match ← anchor? with
  | some name => return (some name, ← mark?)
  | none =>
    match ← mark? with
    | some mark => return (← anchor?, some mark)
    | none => return (none, none)

/-- What tag handles stand for unless a directive says something else. -/
def defaultHandles : List (Text × Text) := [("!", "!"), ("!!", Tag.start)]

/-- The full name of a tag. -/
def fullName (mark : TagMark) : Step Text := do
  match mark.handle with
  | none => return mark.suffix
  | some h =>
    match ((← get).handles ++ defaultHandles).lookup h with
    | some start => return start ++ mark.suffix
    | none => throw .tag

/-- The name of the tag that leaves a node to be what it looks like. -/
def openName : Text := "!"

/-- The tag of a scalar with a full name of a tag, if it has one. -/
def tagOfScalar (plain : Bool) (name : Option Text) (t : Text) : Tag :=
  match name with
  | none => if plain then .ofPlain t else .text
  | some n => if n = openName then .ofPlain t else .ofName n

/-- The tag of a list or a table with a full name of a tag, if it has one. -/
def tagOfCollection (usual : Tag) : Option Text → Tag
  | none => usual
  | some n => if n = openName then usual else .ofName n

/-- The node that has a name. -/
def named (name : Text) : Step Node := do
  match (← get).anchors.lookup name with
  | some (some n) => return n
  | _ => throw .anchor

/-- Gives a name to the node that comes next, when none has it. -/
def reserve (name : Text) : Step Unit := do
  if ((← get).anchors.lookup name).isSome then throw .anchor
  else modify fun r => { r with anchors := (name, none) :: r.anchors }

/-- Tells which node a name was given to. -/
def assign (name : Text) (n : Node) : Step Unit :=
  modify fun r => { r with anchors := (name, some n) :: r.anchors }

/-- The most lists and tables that may stand inside each other. -/
def maxDepth : Nat := 485

/-- Where a node stands: in brackets, in a block, or behind the mark of a key or value in a block,
where items may follow without an indentation of their own. -/
inductive Position where
  | flow
  | block
  | entry
  deriving DecidableEq, Repr

mutual

/-- The node that comes next; inside it `depth` lists and tables may stand inside each other. -/
def node (depth : Nat) : Nat → Position → Step Node
  | 0, _ => throw .misplaced
  | fuel + 1, position => do
    match ← next? with
    | some (.alias name) => do
      pass
      named name
    | _ => do
      let (anchor, mark) ← properties
      let name ← mark.mapM fullName
      anchor.forM reserve
      let n ← content depth fuel position (anchor.isSome || mark.isSome) name
      anchor.forM (assign · n)
      return n

/-- The node that comes next, behind its anchor and its tag; without them it cannot be left out. -/
def content (depth : Nat) : Nat → Position → Bool → Option Text → Step Node
  | 0, _, _, _ => throw .misplaced
  | fuel + 1, position, optional, name => do
    match ← next?, depth with
    | some (.scalar plain t), _ =>
      pass
      return .scalar (tagOfScalar plain name t) t
    | some .openList, depth + 1 => do
      pass
      return .list (tagOfCollection .list name) (← flowItems depth fuel true)
    | some .openTable, depth + 1 => do
      pass
      return .table (tagOfCollection .table name) (← flowEntries depth fuel true)
    | some .items, depth + 1 =>
      if position = .flow then throw .misplaced
      else
        pass
        return .list (tagOfCollection .list name) (← items depth fuel)
    | some .entries, depth + 1 =>
      if position = .flow then throw .misplaced
      else
        pass
        return .table (tagOfCollection .table name) (← entries depth fuel)
    | some .dash, depth + 1 =>
      if position = .entry then
        return .list (tagOfCollection .list name) (← bareItems depth fuel)
      else leftOut optional name
    | some .openList, 0 | some .openTable, 0 | some .items, 0 | some .entries, 0 =>
      throw .tooDeep
    | _, _ => leftOut optional name

/-- The node that is left out behind an anchor or a tag. -/
def leftOut (optional : Bool) (name : Option Text) : Step Node :=
  if optional then return .scalar (tagOfScalar true name []) [] else throw .misplaced

/-- The node that comes next, or null if one of some tokens does. -/
def nodeUnless (depth : Nat) : Nat → List Token → Position → Step Node
  | 0, _, _ => throw .misplaced
  | fuel + 1, ts, position => do
    if ← isNext ts then return missing else node depth fuel position

/-- The items of a list in a block, up to its end. -/
def items (depth : Nat) : Nat → Step (List Node)
  | 0 => throw .misplaced
  | fuel + 1 => do
    if ← passed .dash then
      let n ← nodeUnless depth fuel [.dash, .dedent] .block
      return n :: (← items depth fuel)
    else
      expect .dedent
      return []

/-- The items of a list that has no indentation of its own. -/
def bareItems (depth : Nat) : Nat → Step (List Node)
  | 0 => throw .misplaced
  | fuel + 1 => do
    if ← passed .dash then
      let n ← nodeUnless depth fuel [.dash, .key, .colon, .dedent] .block
      return n :: (← bareItems depth fuel)
    else return []

/-- The entries of a table in a block, up to its end. -/
def entries (depth : Nat) : Nat → Step (List (Node × Node))
  | 0 => throw .misplaced
  | fuel + 1 => do
    let ends : List Token := [.key, .colon, .dedent]
    if ← passed .key then
      let k ← nodeUnless depth fuel ends .entry
      let v ← if ← passed .colon then nodeUnless depth fuel ends .entry else pure missing
      return (k, v) :: (← entries depth fuel)
    else
      expect .dedent
      return []

/-- The items of a list in brackets, up to the closing one; `first` says that none came yet. An item
may be a table of one entry. -/
def flowItems (depth : Nat) : Nat → Bool → Step (List Node)
  | 0, _ => throw .misplaced
  | fuel + 1, first => do
    if ← passed .closeList then return []
    if !first then expect .comma
    if ← passed .closeList then return []
    let n ←
      if ← passed .key then
        let k ← nodeUnless depth fuel [.colon, .comma, .closeList] .flow
        let v ←
          if ← passed .colon then nodeUnless depth fuel [.comma, .closeList] .flow
          else pure missing
        pure (.table .table [(k, v)])
      else node depth fuel .flow
    return n :: (← flowItems depth fuel false)

/-- The entries of a table in braces, up to the closing one; `first` says that none came yet. -/
def flowEntries (depth : Nat) : Nat → Bool → Step (List (Node × Node))
  | 0, _ => throw .misplaced
  | fuel + 1, first => do
    if ← passed .closeTable then return []
    if !first then expect .comma
    if ← passed .closeTable then return []
    let e ←
      if ← passed .key then
        let k ← nodeUnless depth fuel [.colon, .comma, .closeTable] .flow
        let v ←
          if ← passed .colon then nodeUnless depth fuel [.comma, .closeTable] .flow
          else pure missing
        pure (k, v)
      else
        let k ← node depth fuel .flow
        pure (k, missing)
    return e :: (← flowEntries depth fuel false)

end

/-- Reads the directives in front of a document. -/
def directives (versioned : Bool) : List Token → List (Text × Text) → Step Unit
  | .directive d :: ts, handles => do
    match d with
    | .version major =>
      if versioned || major != 1 then throw .directive else directives true ts handles
    | .handle name meaning =>
      if (handles.lookup name).isSome then throw .directive
      else directives versioned ts ((name, meaning) :: handles)
    | .other => directives versioned ts handles
  | ts, handles => modify fun r => { r with tokens := ts, handles }

/-- Whether a token stands outside of documents. -/
def isOutside : Token → Bool
  | .directive _ | .documentStart | .documentEnd => true
  | _ => false

/-- The document that comes next, with or without a mark in front of it. -/
def document (fuel : Nat) : Step Node := do
  match ← next? with
  | some (.directive _) | some .documentStart => do
    directives false (← get).tokens []
    expect .documentStart
    if (← next?).all isOutside then return missing else node maxDepth fuel .block
  | _ => node maxDepth fuel .block

/-- The node of the only document in some tokens, if there is one. -/
def ofTokens (ts : List Token) : Except SyntaxProblem (Option Node) :=
  match ts with
  | [] => .ok none
  | _ =>
    match (document (4 * ts.length + 4)).run { tokens := ts } with
    | .error e => .error e
    | .ok (n, r) => if r.tokens.all (· == .documentEnd) then .ok (some n) else .error .documents

end Node

end ChangeFeed.Yaml
