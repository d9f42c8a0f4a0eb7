import ChangeFeed.Expression.Rules.Basic

/-!
The rules of functions and their parameters.

A slash ends the parameters that have to be given by place, and a star starts those that have to be
given by name.
-/

namespace ChangeFeed.Expression.Rules

/-- A function. -/
def function : Body Rule := plain [
  .tree [.word "lambda", .optional Rule.parameters, ":", Rule.expression] fun ns =>
    .function (tree ns 3)]

/-- The parameters of a function. -/
def parameters : Body Rule := plain [
  .complaint Rule.wrongParameters, .only Rule.parameterList]

/-- A list of parameters. -/
def parameterList : Body Rule := plain [
  nothing [Rule.slashWithoutDefault, .many Rule.parameterWithoutDefault,
    .many Rule.parameterWithDefault, .optional Rule.starParameters],
  nothing [Rule.slashWithDefault, .many Rule.parameterWithDefault,
    .optional Rule.starParameters],
  nothing [.some Rule.parameterWithoutDefault, .many Rule.parameterWithDefault,
    .optional Rule.starParameters],
  nothing [.some Rule.parameterWithDefault, .optional Rule.starParameters],
  .only Rule.starParameters]

/-- Some parts, and a comma or the colon that ends the parameters. -/
def ended (parts : List (Pattern Rule)) : Body Rule := plain [
  nothing (parts ++ [.sign ","]), nothing (parts ++ [.ahead ":"])]

/-- Parameters without defaults, and a slash. -/
def slashWithoutDefault : Body Rule := ended [.some Rule.parameterWithoutDefault, "/"]

/-- Parameters of which the last ones have defaults, and a slash. -/
def slashWithDefault : Body Rule :=
  ended [.many Rule.parameterWithoutDefault, .some Rule.parameterWithDefault, "/"]

/-- Parameters from the first star on. -/
def starParameters : Body Rule := plain [
  .complaint Rule.wrongStarParameters,
  nothing ["*", Rule.parameterWithoutDefault, .many Rule.parameterMaybeDefault,
    .optional Rule.doubleStarParameter],
  nothing ["*", ",", .some Rule.parameterMaybeDefault, .optional Rule.doubleStarParameter],
  .only Rule.doubleStarParameter]

/-- The parameter behind two stars. -/
def doubleStarParameter : Body Rule := plain [
  .complaint Rule.wrongDoubleStarParameter,
  nothing ["**", Rule.parameterWithoutDefault]]

/-- A parameter without a default. -/
def parameterWithoutDefault : Body Rule := ended [Rule.parameter]

/-- A parameter with a default. -/
def parameterWithDefault : Body Rule := ended [Rule.parameter, Rule.default]

/-- A parameter that may have a default. -/
def parameterMaybeDefault : Body Rule := ended [Rule.parameter, .optional Rule.default]

/-- A parameter. -/
def parameter : Body Rule := plain [nothing [.name]]

/-- A default. -/
def default : Body Rule := plain [
  nothing ["=", Rule.expression], .complaint Rule.wrongDefault]

/-- Parameters with a slash behind them. -/
def beforeSlash : Pattern Rule := .oneOf [Rule.slashWithoutDefault, Rule.slashWithDefault]

/-- Parameters in a wrong order. -/
def wrongParameters : Body Rule := plain [
  .fault ["/", ","] fun _ => .parameter .slashFirst,
  .fault [beforeSlash, .many Rule.parameterMaybeDefault, "/"] fun _ => .parameter .slashTwice,
  .fault [.optional Rule.slashWithoutDefault, .many Rule.parameterWithoutDefault,
      Rule.wrongParametersStart, Rule.parameterWithoutDefault]
    fun _ => .parameter .noDefault,
  .fault [.many Rule.parameterWithoutDefault, "(", .listed Rule.parameter, .optional ",", ")"]
    fun _ => .parameter .parenthesized,
  .fault [.optional beforeSlash, .many Rule.parameterMaybeDefault, "*",
      .oneOf [",", Rule.parameterWithoutDefault], .many Rule.parameterMaybeDefault, "/"]
    fun _ => .parameter .slashBehindStar,
  .fault [.some Rule.parameterMaybeDefault, "/", "*"] fun _ => .parameter .slashBeforeStar]

/-- Parameters with defaults. -/
def wrongParametersStart : Body Rule := plain [
  .only Rule.slashWithDefault, .only (.some Rule.parameterWithDefault)]

/-- A parameter without a default, or a comma. -/
def commaOrParameter : Pattern Rule := .oneOf [Rule.parameterWithoutDefault, ","]

/-- A star with a default, with nothing behind it, or with another star behind it. -/
def wrongStarParameters : Body Rule := plain [
  .fault ["*", .group [[":"], [",", .oneOf [":", "**"]]]] fun _ => .parameter .bareStar,
  .fault ["*", Rule.parameter, "="] fun _ => .parameter .starDefault,
  .fault ["*", commaOrParameter, .many Rule.parameterMaybeDefault, "*", commaOrParameter]
    fun _ => .parameter .starTwice]

/-- Two stars with a default, or with more parameters behind them. -/
def wrongDoubleStarParameter : Body Rule := plain [
  .fault ["**", Rule.parameter, "="] fun _ => .parameter .doubleStarDefault,
  .fault ["**", Rule.parameter, ",", Rule.parameter] fun _ => .parameter .behindDoubleStar,
  .fault ["**", Rule.parameter, ",", .oneOf ["*", "**", "/"]]
    fun _ => .parameter .behindDoubleStar]

/-- A default of nothing. -/
def wrongDefault : Body Rule := plain [
  .fault ["=", .ahead (.oneOf [")", ","])] fun _ => .parameter .emptyDefault]

end ChangeFeed.Expression.Rules
