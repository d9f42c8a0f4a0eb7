import ChangeFeed.Text.Basic

/-!
Options among the arguments of a command.

An option is given by a name behind two hyphens, or by a letter behind one. Its value is the rest of
the argument or the argument that follows, whatever that looks like. Two hyphens alone end the
options.
-/

namespace ChangeFeed.CommandLine

/-- What is wrong with arguments. -/
inductive UsageProblem where
  | unknownOption (name : Text)
  | missingValue (name : Text)
  | unexpectedValue (name : Text)
  | unknownCommand (name : Text)
  | missingCommand
  | unexpectedArgument (argument : Text)
  | notNumber (argument : Text)
  | notDirectory (argument : Text)
  deriving DecidableEq, Repr

/-- The text of the error. -/
def UsageProblem.message : UsageProblem → Text
  | unknownOption name => "No such option: " ++ name
  | missingValue name => "Option '" ++ name ++ "' requires an argument."
  | unexpectedValue name => "Option '" ++ name ++ "' does not take a value."
  | unknownCommand name => "No such command '" ++ name ++ "'."
  | missingCommand => "Missing command."
  | unexpectedArgument a => "Got unexpected extra argument (" ++ a ++ ")"
  | notNumber a => "'" ++ a ++ "' is not a valid integer."
  | notDirectory a => "Directory '" ++ a ++ "' does not exist."

/-- An option of a command. Only one with a value may have a letter. -/
structure OptionSpec where
  name : Text
  letter : Option Char := none
  takesValue : Bool := false
  deriving DecidableEq, Repr

/-- An option as it was given. -/
structure Setting where
  name : Text
  value : Text := []
  deriving DecidableEq, Repr

/-- What an argument that starts with a hyphen says. -/
inductive Given where
  | complete (s : Setting)
  /-- The value of an option is the next argument. -/
  | awaiting (name : Text)
  deriving DecidableEq, Repr

/-- The name in an argument, and the value behind an equals sign. -/
def nameAndValue (arg : Text) : Text × Option Text :=
  match Text.cut? '=' arg with
  | some (name, value) => (name, some value)
  | none => (arg, none)

/-- What an argument with an option in it says. -/
def ofOption (options : List OptionSpec) (arg : Text) : Except UsageProblem Given :=
  let (name, value) := nameAndValue arg
  match options.find? (fun o => o.name == name), value with
  | some o, some v =>
    if o.takesValue then .ok (.complete ⟨name, v⟩) else .error (.unexpectedValue name)
  | some o, none => .ok (if o.takesValue then .awaiting name else .complete ⟨name, []⟩)
  | none, _ =>
    match arg with
    | '-' :: c :: t =>
      match options.find? (fun o => o.letter == some c) with
      | some o => .ok (if t = [] then .awaiting o.name else .complete ⟨o.name, t⟩)
      | none => .error (.unknownOption arg)
    | _ => .error (.unknownOption arg)

/-- The options among arguments, in order, and the other arguments. Unless options may come behind
other arguments, all from the first of those on are left. -/
def split (options : List OptionSpec) (intermixed : Bool) :
    List Text → Except UsageProblem (List Setting × List Text)
  | [] => .ok ([], [])
  | arg :: args =>
    if arg = "--".toList then .ok ([], args)
    else if arg.head? = some '-' ∧ 1 < arg.length then
      match ofOption options arg, args with
      | .error p, _ => .error p
      | .ok (.complete s), args => (split options intermixed args).map fun r => (s :: r.1, r.2)
      | .ok (.awaiting name), [] => .error (.missingValue name)
      | .ok (.awaiting name), v :: args =>
        (split options intermixed args).map fun r => (⟨name, v⟩ :: r.1, r.2)
    else if intermixed then (split options intermixed args).map fun r => (r.1, arg :: r.2)
    else .ok ([], arg :: args)

/-- The value of the last setting of an option. -/
def valueOf? (name : Text) (settings : List Setting) : Option Text :=
  (settings.reverse.find? fun s => s.name == name).map Setting.value

/-- Whether an option is set. -/
def isSet (name : Text) (settings : List Setting) : Bool := settings.any fun s => s.name == name

end ChangeFeed.CommandLine
