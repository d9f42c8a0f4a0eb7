import ChangeFeed.Expression.Pattern

/-!
The names of the rules of expressions.

Rules named for what is wrong serve to find faults. Square brackets have no rules here: an
expression stands in a tag, and a tag ends with the first of them.
-/

namespace ChangeFeed.Expression

/-- The rules of expressions. -/
inductive Rule where
  | whole
  | embedded
  | expressions
  | expression
  | plainExpression
  | yielding
  | starExpressions
  | starExpression
  | starNamedExpressions
  | starNamedExpression
  | assignment
  | namedExpression
  | disjunction
  | conjunction
  | inversion
  | comparison
  | comparedOperand
  | bitOr
  | bitXor
  | bitAnd
  | shift
  | sum
  | term
  | factor
  | power
  | awaited
  | primary
  | atom
  | strings
  | parenthesized
  | tuple
  | set
  | dictionary
  | entries
  | entry
  | pair
  | clauses
  | clause
  | generator
  | setComprehension
  | dictionaryComprehension
  | starTargets
  | starTarget
  | memberTarget
  | atomTarget
  | tupleTargets
  | targetPrimary
  | arguments
  | argumentList
  | keywords
  | starredArgument
  | keywordOrStarred
  | keywordOrDoubleStarred
  | function
  | parameters
  | parameterList
  | slashWithoutDefault
  | slashWithDefault
  | starParameters
  | doubleStarParameter
  | parameterWithoutDefault
  | parameterWithDefault
  | parameterMaybeDefault
  | parameter
  | default
  | sideBySide
  | formerStatement
  | wrongAssignment
  | wrongGroup
  | wrongComprehension
  | wrongDictionaryComprehension
  | wrongTarget
  | wrongEntries
  | wrongEntry
  | wrongArguments
  | wrongKeyword
  | wrongParameters
  | wrongParametersStart
  | wrongStarParameters
  | wrongDoubleStarParameter
  | wrongDefault
  deriving DecidableEq, Repr

namespace Rules

/-- A rule that is just the first of some alternatives that fits. -/
def plain (alternatives : List (Alternative Rule)) : Body Rule := { alternatives }

/-- A rule whose findings are kept. -/
def kept (alternatives : List (Alternative Rule)) : Body Rule := { alternatives, keeps := true }

/-- A rule that may start with itself. -/
def growing (alternatives : List (Alternative Rule)) : Body Rule := { alternatives, grows := true }

/-- The node of a part. -/
def nth (ns : List Node) (i : Nat) : Node := ns.getD i .nothing

/-- The expression of a part. -/
def tree (ns : List Node) (i : Nat) : Expression := (nth ns i).expression

/-- The expressions of parts that each follow a comma. -/
def following (n : Node) : List Expression := n.nodes.map fun m => (m.part 1).expression

/-- The first part as it is. -/
def first (parts : List (Pattern Rule)) : Alternative Rule := .made parts (nth · 0)

/-- Parts of which nothing is kept. -/
def nothing (parts : List (Pattern Rule)) : Alternative Rule := .made parts fun _ => .nothing

/-- What may stand in front of the clauses of a comprehension in parentheses, and be an argument. -/
def element : Pattern Rule :=
  .group [[Rule.assignment], [Rule.expression, .notAhead ":="]]

end Rules

end ChangeFeed.Expression
