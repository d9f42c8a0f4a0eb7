import ChangeFeed.Expression.Number
import ChangeFeed.Expression.Rules.Basic

/-!
The rules of what stands for itself: names, constants, texts, and what stands in brackets.
-/

namespace ChangeFeed.Expression.Rules

/-- A word that is a constant. -/
def constantWord (w : String) (c : Constant) : Alternative Rule :=
  .tree [.word w] fun _ => .constant c

/-- A name, a constant, a text or something in brackets. -/
def atom : Body Rule := plain [
  .tree [.name] (tree · 0),
  constantWord "True" (.truth true),
  constantWord "False" (.truth false),
  constantWord "None" .nothing,
  .made [.ahead (.terminal .quoted), Rule.strings] (nth · 1),
  { parts := [.terminal .number]
    build := fun ns _ =>
      match Number.constant (nth ns 0).text with
      | .ok c => .node (.tree (.constant c))
      | .error f => .fault f },
  .made [.ahead "(", .oneOf [Rule.tuple, Rule.parenthesized, Rule.generator]] (nth · 1),
  .made [.ahead "\x7b",
      .oneOf [Rule.dictionary, Rule.set, Rule.dictionaryComprehension, Rule.setComprehension]]
    (nth · 1),
  .tree ["..."] fun _ => .constant .ellipsis]

/-- Texts side by side, which are one text; `read` puts them together. -/
def strings (read : List Token → Outcome) : Body Rule := kept [
  { parts := [.some (.terminal .quoted)]
    build := fun ns _ => read ((nth ns 0).nodes.filterMap fun n =>
      match n with
      | .token t => some t
      | _ => none) }]

/-- An expression in parentheses. -/
def parenthesized : Body Rule := plain [
  .made ["(", .oneOf [Rule.yielding, Rule.namedExpression], ")"] (nth · 1),
  .complaint Rule.wrongGroup]

/-- A tuple in parentheses. -/
def tuple : Body Rule := plain [
  .tree ["(",
      .optional (.row [Rule.starNamedExpression, ",", .optional Rule.starNamedExpressions]),
      ")"]
    fun ns =>
      let items := nth ns 1
      .tuple (if items.isSome then (items.part 0).expression :: (items.part 2).expressions else [])]

/-- A set in braces. -/
def set : Body Rule := plain [
  .tree ["\x7b", Rule.starNamedExpressions, "\x7d"] fun ns => .set (nth ns 1).expressions]

/-- A dictionary in braces. -/
def dictionary : Body Rule := plain [
  .tree ["\x7b", .optional Rule.entries, "\x7d"] fun ns => .dictionary (nth ns 1).expressions,
  nothing ["\x7b", Rule.wrongEntries, "\x7d"]]

/-- The entries of a dictionary. -/
def entries : Body Rule := plain [first [.listed Rule.entry, .optional ","]]

/-- An entry of a dictionary: another dictionary, or a key and a value. -/
def entry : Body Rule := plain [
  .tree ["**", Rule.bitOr] fun _ => .unpacked,
  .only Rule.pair]

/-- A key and a value. -/
def pair : Body Rule := plain [
  .tree [Rule.expression, ":", Rule.expression] fun ns => .entry (tree ns 0) (tree ns 2)]

/-- The clauses of a comprehension. -/
def clauses : Body Rule := plain [first [.some Rule.clause]]

/-- A clause of a comprehension; behind its second word it can be nothing else. -/
def clauseOf (start : List (Pattern Rule)) : Alternative Rule :=
  { parts := start ++ [.word "for", .rule .starTargets, .word "in"]
    committed := [Rule.disjunction, .many (.row [.word "if", Rule.disjunction])]
    build := fun _ _ => .node .nothing }

/-- A clause of a comprehension. -/
def clause : Body Rule := plain [
  clauseOf [.word "async"], clauseOf [], .complaint Rule.wrongTarget]

/-- A generator in parentheses. -/
def generator : Body Rule := plain [
  .tree ["(", element, Rule.clauses, ")"] fun _ => .comprehension .generator,
  .complaint Rule.wrongComprehension]

/-- A set made by a comprehension. -/
def setComprehension : Body Rule := plain [
  .tree ["\x7b", Rule.namedExpression, Rule.clauses, "\x7d"] fun _ => .comprehension .set,
  .complaint Rule.wrongComprehension]

/-- A dictionary made by a comprehension. -/
def dictionaryComprehension : Body Rule := plain [
  .tree ["\x7b", Rule.pair, Rule.clauses, "\x7d"] fun _ => .comprehension .dictionary,
  .complaint Rule.wrongDictionaryComprehension]

/-- The variables of a loop. -/
def starTargets : Body Rule := plain [
  nothing [Rule.starTarget, .notAhead ","],
  nothing [Rule.starTarget, .many (.row [",", Rule.starTarget]), .optional ","]]

/-- A variable of a loop that may have a star. -/
def starTarget : Body Rule := kept [
  nothing ["*", .row [.notAhead "*", Rule.starTarget]],
  .only Rule.memberTarget]

/-- What goes on behind an operand. -/
def goesOn : Pattern Rule := .oneOf ["(", "."]

/-- A variable of a loop: a member, or a name or tuple. -/
def memberTarget : Body Rule := kept [
  nothing [Rule.targetPrimary, ".", .name, .notAhead goesOn],
  .only Rule.atomTarget]

/-- A name, or variables in parentheses. -/
def atomTarget : Body Rule := plain [
  nothing [.name],
  nothing ["(", Rule.memberTarget, ")"],
  nothing ["(", .optional Rule.tupleTargets, ")"]]

/-- Several variables. -/
def tupleTargets : Body Rule := plain [
  nothing [Rule.starTarget, .some (.row [",", Rule.starTarget]), .optional ","],
  nothing [Rule.starTarget, ","]]

/-- What a variable can be a member of. -/
def targetPrimary : Body Rule := growing [
  nothing [Rule.targetPrimary, ".", .name, .ahead goesOn],
  nothing [Rule.targetPrimary, Rule.generator, .ahead goesOn],
  nothing [Rule.targetPrimary, "(", .optional Rule.arguments, ")", .ahead goesOn],
  nothing [Rule.atom, .ahead goesOn]]

/-- An expression with a star alone in parentheses. -/
def wrongGroup : Body Rule := plain [
  .fault ["(", Rule.starredArgument, ")"] fun _ => .display .star,
  .fault ["(", "**", Rule.expression, ")"] fun _ => .display .doubleStar]

/-- A comprehension of unpacked values, or of several values without parentheses. -/
def wrongComprehension : Body Rule := plain [
  .fault [.oneOf ["(", "\x7b"], Rule.starredArgument, Rule.clauses]
    fun _ => .display .unpackedComprehension,
  .fault [.oneOf ["\x7b"], Rule.starNamedExpression, ",", Rule.starNamedExpressions, Rule.clauses]
    fun _ => .display .bareTarget,
  .fault [.oneOf ["\x7b"], Rule.starNamedExpression, ",", Rule.clauses]
    fun _ => .display .bareTarget]

/-- A comprehension of unpacked dictionaries. -/
def wrongDictionaryComprehension : Body Rule := plain [
  .fault ["\x7b", "**", Rule.bitOr, Rule.clauses, "\x7d"] fun _ => .display .unpackedDictionary]

/-- A loop over what is no variable. -/
def wrongTarget : Body Rule := plain [
  { parts := [.optional (.word "async"), .word "for", Rule.starExpressions]
    build := fun ns _ =>
      match (tree ns 2).nonTarget? with
      | some e => .fault (.target e.designation)
      | none => .refused }]

/-- A value with a star. -/
def starredValue : Alternative Rule :=
  .fault [Rule.expression, ":", "*", Rule.bitOr] fun _ => .display .starredValue

/-- A key without a value. -/
def noValue : Alternative Rule :=
  .fault [Rule.expression, ":", .ahead (.oneOf ["\x7d", ","])] fun _ => .display .noValue

/-- Entries of which one is none. -/
def wrongEntries : Body Rule := plain [
  nothing [.listed Rule.entry, ",", Rule.wrongEntry], starredValue, noValue]

/-- An entry that is none. -/
def wrongEntry : Body Rule := plain [
  .fault [Rule.expression, .notAhead ":"] fun _ => .display .noColon, starredValue, noValue]

end ChangeFeed.Expression.Rules
