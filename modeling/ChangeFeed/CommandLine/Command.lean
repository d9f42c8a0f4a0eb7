import ChangeFeed.CommandLine.Arguments
import ChangeFeed.Failure

/-!
The commands, and the arguments that ask for them.

Arguments are taken apart as a whole before any value among them is looked at. Values are then
looked at in the order in which their options first come up, and arguments without a place come
last.
-/

namespace ChangeFeed.CommandLine

/-- The commit that a command is about. -/
structure Target where
  repository : Text := "."
  revision : Text := "HEAD"
  deriving DecidableEq, Repr

/-- How events are printed. -/
structure EventStyle where
  /-- As a table for people, whatever else is asked for. -/
  pretty : Bool := false
  /-- One event in each line. -/
  byLine : Bool := false
  indent : Option Int := none
  deriving DecidableEq, Repr

/-- What is asked for. -/
inductive Command where
  | events (target : Target) (style : EventStyle) (references : Bool)
  | hunks (target : Target) (pretty : Bool)
  | tags (target : Target) (pretty : Bool)
  /-- To write the default configuration to its file. -/
  | initialConfig (force : Bool)
  /-- To print the configuration. -/
  | showConfig (pretty : Bool)
  /-- To print the path of the configuration file. -/
  | configPath
  /-- To print how the program is used. -/
  | help
  deriving DecidableEq, Repr

/-- Why arguments ask for no command. -/
inductive Refusal where
  | misuse (p : UsageProblem)
  /-- An argument cannot be looked at. -/
  | failure (f : Failure)
  deriving DecidableEq, Repr

namespace Command

/-- The option that every command has. -/
def helpOption : OptionSpec := { name := "--help" }

/-- The options that choose a commit and the way of printing. -/
def targetOptions : List OptionSpec := [
  { name := "--repo", letter := some 'r', takesValue := true },
  { name := "--rev", takesValue := true }, { name := "--pretty" }, helpOption]

/-- The options of the command for events. -/
def eventOptions : List OptionSpec :=
  targetOptions ++ [
    { name := "--jsonl" }, { name := "--indent", takesValue := true },
    { name := "--no-references" }]

/-- The commit that settings choose. -/
def targetOf (settings : List Setting) : Target where
  repository := (valueOf? "--repo" settings).getD "."
  revision := (valueOf? "--rev" settings).getD "HEAD"

/-- The indentation that settings choose, if they choose one. -/
def indentOf (settings : List Setting) : Except UsageProblem (Option Int) :=
  match valueOf? "--indent" settings with
  | none => .ok none
  | some t =>
    match Numeral.read t with
    | .ok n => .ok (some n)
    | .error _ => .error (.notNumber t)

/-- Looks at a repository, which has to be a directory. -/
def checkRepository (files : FileTree) (repository : Text) : Except Refusal Unit :=
  let p := Path.ofText repository
  if p.hasNull then .error (.failure (.file .nullCharacter))
  else
    match repository, files.find? p with
    | _ :: _, .ok (some .directory) => .ok ()
    | _, _ => .error (.misuse (.notDirectory repository))

/-- Looks at the value of an option among settings. -/
def checkOption (files : FileTree) (settings : List Setting) (name : Text) :
    Except Refusal Unit :=
  if name = "--repo".toList then checkRepository files (targetOf settings).repository
  else if name = "--indent".toList then
    match indentOf settings with
    | .ok _ => .ok ()
    | .error p => .error (.misuse p)
  else .ok ()

/-- The settings that the arguments of a command make for its options; no other argument may be
there. Nothing more is looked at if they ask for help. -/
def settingsOf (files : FileTree) (options : List OptionSpec) (args : List Text) :
    Except Refusal (List Setting) := do
  let (settings, others) ← (split options true args).mapError Refusal.misuse
  if isSet "--help" settings then return settings
  let given := (settings.map Setting.name).eraseDups
  let defaults := (options.map OptionSpec.name).filter fun name => !given.contains name
  (given ++ defaults).forM (checkOption files settings)
  match others with
  | [] => return settings
  | arg :: _ => throw (.misuse (.unexpectedArgument arg))

/-- The command that settings choose, unless they ask for help. -/
def unlessHelp (settings : List Setting) (c : List Setting → Command) : Command :=
  if isSet "--help" settings then help else c settings

/-- The way of printing events that settings choose. -/
def styleOf (settings : List Setting) : EventStyle where
  pretty := isSet "--pretty" settings
  byLine := isSet "--jsonl" settings
  indent := match indentOf settings with
    | .ok indent => indent
    | .error _ => none

/-- The command of a group and the arguments behind its name. -/
def ofGroup (args : List Text) (command : Text → List Text → Except Refusal Command) :
    Except Refusal Command := do
  match ← (split [helpOption] false args).mapError Refusal.misuse with
  | (_ :: _, _) => return help
  | ([], []) => throw (.misuse .missingCommand)
  | ([], name :: args) => command name args

/-- The command about the configuration with the given name and arguments. -/
def configOf (files : FileTree) (name : Text) (args : List Text) : Except Refusal Command :=
  if name = "init".toList then do
    let settings ← settingsOf files [{ name := "--force" }, helpOption] args
    return unlessHelp settings fun s => initialConfig (isSet "--force" s)
  else if name = "show".toList then do
    let settings ← settingsOf files [{ name := "--pretty" }, { name := "--path" }, helpOption] args
    return unlessHelp settings fun s =>
      if isSet "--path" s then configPath else showConfig (isSet "--pretty" s)
  else .error (.misuse (.unknownCommand name))

/-- The command with the given name and arguments. -/
def named (files : FileTree) (name : Text) (args : List Text) : Except Refusal Command :=
  if name = "events".toList then do
    let settings ← settingsOf files eventOptions args
    return unlessHelp settings fun s =>
      events (targetOf s) (styleOf s) !(isSet "--no-references" s)
  else if name = "hunks".toList then do
    let settings ← settingsOf files targetOptions args
    return unlessHelp settings fun s => hunks (targetOf s) (isSet "--pretty" s)
  else if name = "tags".toList then do
    let settings ← settingsOf files targetOptions args
    return unlessHelp settings fun s => tags (targetOf s) (isSet "--pretty" s)
  else if name = "config".toList then ofGroup args (configOf files)
  else .error (.misuse (.unknownCommand name))

/-- The command that arguments ask for, in a tree of files in which its repository has to be. -/
def ofArguments (files : FileTree) (args : List Text) : Except Refusal Command :=
  ofGroup args (named files)

/-- Whether a command reads a repository. -/
def readsRepository : Command → Bool
  | events _ _ _ | hunks _ _ | tags _ _ => true
  | _ => false

end Command

end ChangeFeed.CommandLine
