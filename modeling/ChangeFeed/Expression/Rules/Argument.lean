import ChangeFeed.Expression.Rules.Basic

/-!
The rules of the arguments of a call.

Arguments without names come first, and unpacked dictionaries behind all others that are unpacked.
-/

namespace ChangeFeed.Expression.Rules

/-- The arguments of a call. -/
def arguments : Body Rule := kept [
  first [Rule.argumentList, .optional ",", .ahead ")"],
  .complaint Rule.wrongArguments]

/-- An argument without a name. -/
def positional : Pattern Rule :=
  .group [[Rule.starredArgument], [element, .notAhead "="]]

/-- What a list of arguments with names adds to the arguments without. -/
def countArguments (before : Nat) (ns : List Node) : Node :=
  .arguments
    (before + (ns.filter fun n => n matches .tree _).length)
    (ns.any fun n => n matches .keyword false)

/-- A list of arguments. -/
def argumentList : Body Rule := plain [
  .made [.listed positional, .optional (.row [",", Rule.keywords])] fun ns =>
    countArguments (nth ns 0).nodes.length ((nth ns 1).part 1).nodes,
  .made [Rule.keywords] fun ns => countArguments 0 (nth ns 0).nodes]

/-- Arguments of which no one without a name and a star is left. -/
def keywords : Body Rule := plain [
  .made [.listed Rule.keywordOrStarred, ",", .listed Rule.keywordOrDoubleStarred] fun ns =>
    .group ((nth ns 0).nodes ++ (nth ns 2).nodes),
  first [.listed Rule.keywordOrStarred],
  first [.listed Rule.keywordOrDoubleStarred]]

/-- Unpacked values. -/
def starredArgument : Body Rule := plain [
  .tree ["*", Rule.expression] fun ns => .starred (tree ns 1)]

/-- An argument with a name. -/
def keyword : Alternative Rule :=
  .made [.name, "=", Rule.expression] fun _ => .keyword true

/-- An argument with a name, or unpacked values. -/
def keywordOrStarred : Body Rule := plain [
  .complaint Rule.wrongKeyword, keyword, .only Rule.starredArgument]

/-- An argument with a name, or an unpacked dictionary. -/
def keywordOrDoubleStarred : Body Rule := plain [
  .complaint Rule.wrongKeyword, keyword,
  .made ["**", Rule.expression] fun _ => .keyword false]

/-- A comprehension that is assigned to a name. -/
def assignedComprehension : Alternative Rule :=
  .fault [.name, "=", Rule.expression, Rule.clauses] fun _ => .equals

/-- Arguments in a wrong order, or a generator that needs parentheses. -/
def wrongArguments : Body Rule := plain [
  .fault [Rule.argumentList, ",", "*"] fun _ => .argument .starBehindDoubleStar,
  .fault [Rule.expression, Rule.clauses, ",",
      .optional (.group [[Rule.argumentList], [Rule.expression, Rule.clauses]])]
    fun _ => .argument .generator,
  assignedComprehension,
  { parts := [Rule.argumentList, Rule.clauses]
    build := fun ns _ =>
      match nth ns 0 with
      | .arguments n _ => if n ≤ 1 then .refused else .fault (.argument .generator)
      | _ => .refused },
  .fault [Rule.argumentList, ",", Rule.expression, Rule.clauses] fun _ => .argument .generator,
  .fault [Rule.argumentList, ",", Rule.argumentList] fun ns =>
    match nth ns 0 with
    | .arguments _ true => .argument .positionalBehindDoubleStar
    | _ => .argument .positional]

/-- An argument with a name that is none. -/
def wrongKeyword : Body Rule := plain [
  .fault [.oneOf [.word "True", .word "False", .word "None"], "="] fun ns =>
    .argument (.keyword (nth ns 0).text),
  assignedComprehension,
  .fault [.notAhead (.row [.name, "="]), Rule.expression, "="] fun _ => .argument .assignment]

end ChangeFeed.Expression.Rules
