import ChangeFeed.Expression.Rules.Argument
import ChangeFeed.Expression.Rules.Display
import ChangeFeed.Expression.Rules.Operation
import ChangeFeed.Expression.Rules.Parameter

/-!
The grammar of expressions: what each rule stands for.
-/

namespace ChangeFeed.Expression

/-- What a rule stands for, when `read` puts texts side by side together. -/
def grammar (read : List Token → Outcome) : Rule → Body Rule
  | .whole => Rules.whole
  | .embedded => Rules.embedded
  | .expressions => Rules.commaSeparated .expression
  | .expression => Rules.expression
  | .plainExpression => Rules.plainExpression
  | .yielding => Rules.yielding
  | .starExpressions => Rules.commaSeparated .starExpression
  | .starExpression => Rules.starExpression
  | .starNamedExpressions => Rules.starNamedExpressions
  | .starNamedExpression => Rules.starNamedExpression
  | .assignment => Rules.assignment
  | .namedExpression => Rules.namedExpression
  | .disjunction => Rules.linked "or" .conjunction
  | .conjunction => Rules.linked "and" .inversion
  | .inversion => Rules.inversion
  | .comparison => Rules.comparison
  | .comparedOperand => Rules.comparedOperand
  | .bitOr => Rules.chain .bitOr ["|"] .bitXor
  | .bitXor => Rules.chain .bitXor ["^"] .bitAnd
  | .bitAnd => Rules.chain .bitAnd ["&"] .shift
  | .shift => Rules.chain .shift ["<<", ">>"] .sum
  | .sum => Rules.sum
  | .term => Rules.chain .term ["*", "/", "//", "%", "@"] .factor
  | .factor => Rules.factor
  | .power => Rules.power
  | .awaited => Rules.awaited
  | .primary => Rules.primary
  | .atom => Rules.atom
  | .strings => Rules.strings read
  | .parenthesized => Rules.parenthesized
  | .tuple => Rules.tuple
  | .set => Rules.set
  | .dictionary => Rules.dictionary
  | .entries => Rules.entries
  | .entry => Rules.entry
  | .pair => Rules.pair
  | .clauses => Rules.clauses
  | .clause => Rules.clause
  | .generator => Rules.generator
  | .setComprehension => Rules.setComprehension
  | .dictionaryComprehension => Rules.dictionaryComprehension
  | .starTargets => Rules.starTargets
  | .starTarget => Rules.starTarget
  | .memberTarget => Rules.memberTarget
  | .atomTarget => Rules.atomTarget
  | .tupleTargets => Rules.tupleTargets
  | .targetPrimary => Rules.targetPrimary
  | .arguments => Rules.arguments
  | .argumentList => Rules.argumentList
  | .keywords => Rules.keywords
  | .starredArgument => Rules.starredArgument
  | .keywordOrStarred => Rules.keywordOrStarred
  | .keywordOrDoubleStarred => Rules.keywordOrDoubleStarred
  | .function => Rules.function
  | .parameters => Rules.parameters
  | .parameterList => Rules.parameterList
  | .slashWithoutDefault => Rules.slashWithoutDefault
  | .slashWithDefault => Rules.slashWithDefault
  | .starParameters => Rules.starParameters
  | .doubleStarParameter => Rules.doubleStarParameter
  | .parameterWithoutDefault => Rules.parameterWithoutDefault
  | .parameterWithDefault => Rules.parameterWithDefault
  | .parameterMaybeDefault => Rules.parameterMaybeDefault
  | .parameter => Rules.parameter
  | .default => Rules.default
  | .sideBySide => Rules.sideBySide
  | .formerStatement => Rules.formerStatement
  | .wrongAssignment => Rules.wrongAssignment
  | .wrongGroup => Rules.wrongGroup
  | .wrongComprehension => Rules.wrongComprehension
  | .wrongDictionaryComprehension => Rules.wrongDictionaryComprehension
  | .wrongTarget => Rules.wrongTarget
  | .wrongEntries => Rules.wrongEntries
  | .wrongEntry => Rules.wrongEntry
  | .wrongArguments => Rules.wrongArguments
  | .wrongKeyword => Rules.wrongKeyword
  | .wrongParameters => Rules.wrongParameters
  | .wrongParametersStart => Rules.wrongParametersStart
  | .wrongStarParameters => Rules.wrongStarParameters
  | .wrongDoubleStarParameter => Rules.wrongDoubleStarParameter
  | .wrongDefault => Rules.wrongDefault

end ChangeFeed.Expression
