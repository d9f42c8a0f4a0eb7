import ChangeFeed.Expression.Basic
import ChangeFeed.Expression.Fault
import ChangeFeed.Expression.Token

/-!
Patterns of tokens, and the rules that are made of them.

A rule has alternatives in an order that counts. An alternative is a sequence of patterns and a way
to build something of what they yield, or to find a fault in it.
-/

namespace ChangeFeed.Expression

/-- What a pattern yields. -/
inductive Node where
  | nothing
  | token (t : Token)
  | tree (e : Expression)
  | group (ns : List Node)
  /-- The arguments of a call: how many of them have no name, and whether a dictionary is unpacked
  in them. -/
  | arguments (positional : Nat) (unpacks : Bool)
  /-- An argument with a name, or an unpacked dictionary. -/
  | keyword (named : Bool)
  deriving Repr

namespace Node

instance : Inhabited Node := ⟨.nothing⟩

/-- The expression of a node. -/
def expression : Node → Expression
  | tree e => e
  | token t => .name t.text
  | _ => default

/-- The text of a token. -/
def text : Node → Text
  | token t => t.text
  | _ => []

/-- The nodes of a group. -/
def nodes : Node → List Node
  | group ns => ns
  | nothing => []
  | n => [n]

/-- One of the nodes of a group. -/
def part (n : Node) (i : Nat) : Node := n.nodes.getD i .nothing

/-- The expressions of a group. -/
def expressions (n : Node) : List Expression := n.nodes.map expression

/-- Whether there is anything. -/
def isSome : Node → Bool
  | nothing => false
  | _ => true

end Node

/-- What one token has to be. -/
inductive Terminal where
  | name
  | number
  | quoted
  | newline
  | finish
  /-- A name that starts a word of some statements. -/
  | softWord
  | word (w : String)
  | sign (s : String)
  deriving DecidableEq, Repr

/-- Whether a token is what it has to be. -/
def Terminal.accepts (x : Terminal) (t : Token) : Bool :=
  match x with
  | name => t.kind == .name
  | number => t.kind == .number
  | quoted => t.kind == .quoted
  | newline => t.kind == .newline
  | finish => t.kind == .finish
  | softWord => t.kind == .name && softWords.any fun w => Text.startsWith t.text w.toList
  | word w => t.kind == .word && t.text == w.toList
  | sign s => t.kind == .sign && t.text == s.toList

/-- A pattern of tokens; `R` holds the rules. -/
inductive Pattern (R : Type) where
  | terminal (x : Terminal)
  | rule (r : R)
  /-- The first of several sequences that fits. -/
  | group (choices : List (List (Pattern R)))
  | optional (p : Pattern R)
  | many (p : Pattern R)
  | some (p : Pattern R)
  /-- One or more, with commas between them. -/
  | listed (p : Pattern R)
  | ahead (p : Pattern R)
  | notAhead (p : Pattern R)

namespace Pattern

variable {R : Type}

/-- A sign. -/
def sign (s : String) : Pattern R := .terminal (.sign s)

/-- A reserved word. -/
def word (w : String) : Pattern R := .terminal (.word w)

/-- A name. -/
def name : Pattern R := .terminal .name

/-- Some patterns in a row. -/
def row (ps : List (Pattern R)) : Pattern R := .group [ps]

/-- One of several patterns. -/
def oneOf (ps : List (Pattern R)) : Pattern R := .group (ps.map ([·]))

instance : Coe String (Pattern R) := ⟨sign⟩

instance : Coe R (Pattern R) := ⟨.rule⟩

end Pattern

/-- What an alternative makes of its parts. -/
inductive Outcome where
  | node (n : Node)
  /-- The rule does not fit, and no other alternative is tried. -/
  | refused
  | fault (f : Fault)
  /-- A fault that was found in a part of a token and is told as it is. -/
  | told (f : Fault)

/-- One of the ways in which a rule can fit. -/
structure Alternative (R : Type) where
  parts : List (Pattern R)
  /-- Further parts; once it comes to them, no other alternative is tried. -/
  committed : List (Pattern R) := []
  /-- Whether it serves to find faults only. -/
  complains : Bool := false
  /-- What the nodes of the parts make; brackets open behind the last token are counted. -/
  build : List Node → Nat → Outcome

/-- A rule. -/
structure Body (R : Type) where
  alternatives : List (Alternative R)
  /-- Whether what it yields at a token is kept. -/
  keeps : Bool := false
  /-- Whether it may start with itself. It then grows from its shortest form as far as it can. -/
  grows : Bool := false
  /-- Whether no faults are looked for in it. -/
  quiet : Bool := false

namespace Alternative

variable {R : Type}

/-- The parts make an expression. -/
def tree (parts : List (Pattern R)) (f : List Node → Expression) : Alternative R :=
  { parts, build := fun ns _ => .node (.tree (f ns)) }

/-- The parts make a node. -/
def made (parts : List (Pattern R)) (f : List Node → Node) : Alternative R :=
  { parts, build := fun ns _ => .node (f ns) }

/-- A single part that is handed on. -/
def only (p : Pattern R) : Alternative R :=
  { parts := [p], build := fun ns _ => .node (ns.headD .nothing) }

/-- A rule that serves to find faults only. -/
def complaint (r : R) : Alternative R :=
  { parts := [.rule r], complains := true, build := fun ns _ => .node (ns.headD .nothing) }

/-- The parts are a fault. -/
def fault (parts : List (Pattern R)) (f : List Node → Fault) : Alternative R :=
  { parts, build := fun ns _ => .fault (f ns) }

end Alternative

end ChangeFeed.Expression
