import ChangeFeed.Expression.Rules.Basic

/-!
The rules of operations, from lists of expressions down to calls.

Each level of operations is made of the next one, so that what binds more tightly stands deeper.
-/

namespace ChangeFeed.Expression.Rules

/-- An expression and nothing else. -/
def whole : Body Rule := plain [
  first [Rule.expressions, .many (.terminal .newline), .terminal .finish]]

/-- The start of a field of a text. -/
def embedded : Body Rule := plain [.only Rule.starExpressions]

/-- One or more parts, with commas between them; a comma makes a tuple. -/
def commaSeparated (r : Rule) : Body Rule := plain [
  .tree [r, .some (.row [",", r]), .optional ","] fun ns =>
    .tuple (tree ns 0 :: following (nth ns 1)),
  .tree [r, ","] fun ns => .tuple [tree ns 0],
  .only r]

/-- An expression with a condition, if it has one, or a function. -/
def conditional : List (Alternative Rule) := [
  .tree [Rule.disjunction, .word "if", Rule.disjunction, .word "else", Rule.expression]
    fun ns => .choice [tree ns 0, tree ns 2, tree ns 4],
  .only Rule.disjunction,
  .only Rule.function]

/-- An expression. -/
def expression : Body Rule :=
  kept (.complaint Rule.sideBySide :: .complaint Rule.formerStatement :: conditional)

/-- An expression in which no faults are looked for. -/
def plainExpression : Body Rule := { alternatives := conditional, quiet := true }

/-- What a generator function hands out. -/
def yielding : Body Rule := plain [
  .tree [.word "yield", .word "from", Rule.expression] fun _ => .yielded,
  .tree [.word "yield", .optional Rule.starExpressions] fun _ => .yielded]

/-- A part behind a star. -/
def starred : Alternative Rule := .tree ["*", Rule.bitOr] fun ns => .starred (tree ns 1)

/-- An expression that may have a star. -/
def starExpression : Body Rule := kept [starred, .only Rule.expression]

/-- Named expressions that may have stars, with commas between them. -/
def starNamedExpressions : Body Rule := plain [
  first [.listed Rule.starNamedExpression, .optional ","]]

/-- A named expression that may have a star. -/
def starNamedExpression : Body Rule := plain [starred, .only Rule.namedExpression]

/-- An expression with a name that it is assigned to. -/
def assignment : Body Rule := plain [
  { parts := [.name, ":="], committed := [Rule.expression]
    build := fun _ _ => .node (.tree .assignment) }]

/-- An expression that may be assigned to a name. -/
def namedExpression : Body Rule := plain [
  .only Rule.assignment,
  .complaint Rule.wrongAssignment,
  first [Rule.expression, .notAhead ":="]]

/-- Operands with a word between them. -/
def linked (w : String) (r : Rule) : Body Rule := kept [
  .tree [r, .some (.row [.word w, r])] fun ns => .operation (tree ns 0 :: following (nth ns 1)),
  .only r]

/-- A negation, or a comparison. -/
def inversion : Body Rule := kept [
  .tree [.word "not", Rule.inversion] fun ns => .operation [tree ns 1],
  .only Rule.comparison]

/-- Whether a comparison starts with a test of membership. -/
def isMembership (pairs : Node) : Bool := ((pairs.part 0).part 0).text == "in".toList

/-- Operands with signs or words of comparison between them. -/
def comparison : Body Rule := plain [
  .tree [Rule.bitOr, .some Rule.comparedOperand] fun ns =>
    .comparison (tree ns 0) (isMembership (nth ns 1)),
  .only Rule.bitOr]

/-- The right side of a comparison, with its sign. -/
def comparedOperand : Body Rule := plain (
  (["==", "!=", "<=", "<", ">=", ">"].map fun s => .only (.row [.sign s, Rule.bitOr])) ++ [
    .only (.row [.word "not", .word "in", Rule.bitOr]),
    .only (.row [.word "in", Rule.bitOr]),
    .only (.row [.word "is", .word "not", Rule.bitOr]),
    .only (.row [.word "is", Rule.bitOr])])

/-- Operands with signs between them, grouped from the left. -/
def chain (r : Rule) (signs : List String) (next : Rule) : Body Rule := growing (
  (signs.map fun s => .tree [r, .sign s, next] fun ns => .operation [tree ns 0, tree ns 2]) ++
    [.only next])

/-- A sum or a difference. -/
def sum : Body Rule := growing [
  .tree [Rule.sum, "+", Rule.term] fun ns => .sum false (tree ns 0) (tree ns 2),
  .tree [Rule.sum, "-", Rule.term] fun ns => .sum true (tree ns 0) (tree ns 2),
  .only Rule.term]

/-- An operand that may have signs in front of it. -/
def factor : Body Rule := kept [
  .tree ["+", Rule.factor] fun ns => .signed false (tree ns 1),
  .tree ["-", Rule.factor] fun ns => .signed true (tree ns 1),
  .tree ["~", Rule.factor] fun ns => .operation [tree ns 1],
  .only Rule.power]

/-- A power. -/
def power : Body Rule := plain [
  .tree [Rule.awaited, "**", Rule.factor] fun ns => .operation [tree ns 0, tree ns 2],
  .only Rule.awaited]

/-- An operand that may be waited for. -/
def awaited : Body Rule := kept [
  .tree [.word "await", Rule.primary] fun _ => .awaited,
  .only Rule.primary]

/-- An operand with its members and calls. -/
def primary : Body Rule := growing [
  .tree [Rule.primary, ".", .name] fun ns => .member (tree ns 0),
  .tree [Rule.primary, Rule.generator] fun ns => .call (tree ns 0) false,
  .tree [Rule.primary, "(", .optional Rule.arguments, ")"] fun ns =>
    .call (tree ns 0) !(nth ns 2).isSome,
  .only Rule.atom]

/-- Two expressions side by side, or a condition without its other branch. -/
def sideBySide : Body Rule := plain [
  { parts := [
      .notAhead (.group [[.name, .terminal .quoted], [.terminal .softWord]]),
      Rule.disjunction, Rule.plainExpression]
    build := fun ns level =>
      if (tree ns 1).formerStatement?.isSome || level == 0 then .refused else .fault .comma },
  .fault [Rule.disjunction, .word "if", Rule.disjunction, .notAhead (.oneOf [.word "else", ":"])]
    fun _ => .noElse]

/-- A function that was a statement once, without its parentheses. -/
def formerStatement : Body Rule := plain [
  { parts := [.name, .notAhead "(", Rule.starExpressions]
    build := fun ns _ =>
      match (tree ns 0).formerStatement? with
      | some t => .fault (.formerStatement t)
      | none => .refused }]

/-- An assignment where none can be, or to what is no name. -/
def wrongAssignment : Body Rule := kept [
  .fault [Rule.expression, ":=", Rule.expression] fun ns => .walrus (tree ns 0).designation,
  .fault [.name, "=", Rule.bitOr, .notAhead (.oneOf ["=", ":="])] fun _ => .equals,
  .fault [
      .notAhead (.oneOf
        [Rule.tuple, Rule.generator, .word "True", .word "None", .word "False"]),
      Rule.bitOr, "=", Rule.bitOr, .notAhead (.oneOf ["=", ":="])]
    fun ns => .assigned (tree ns 1).designation]

end ChangeFeed.Expression.Rules
