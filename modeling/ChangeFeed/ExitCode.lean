import ChangeFeed.Failure

/-!
Exit codes of commands.

A command that fails exits with a code that tells what kind of thing went wrong: a question to git,
the tag program, the configuration, or data that cannot be used.
-/

namespace ChangeFeed.ExitCode

/-- Anything that has no code of its own. -/
def general : Int := 1

/-- The exit code of an interrupt by the user. -/
def interrupted : Int := 130

/-- The exit codes of declared kinds of failure. -/
def declared : List (String × Int) := [
  ("VCSError", 64), ("TagExtractionError", 65), ("ConfigError", 66), ("TagFormatError", 70),
  ("MetadataError", 70), ("CommandError", 1)]

/-- The exit codes of other kinds that have one. -/
def others : List (String × Int) := [
  ("FileNotFoundError", 1), ("ValueError", 70), ("KeyError", 70), ("JSONDecodeError", 70),
  ("KeyboardInterrupt", 130)]

/-- Whether a kind of failure is declared by this library and carries its exit code. -/
def isDeclared (kind : Text) : Bool := (declared.lookup (String.ofList kind)).isSome

/-- The exit code of a kind of failure. -/
def ofKind (kind : Text) : Int :=
  ((declared ++ others).lookup (String.ofList kind)).getD general

end ChangeFeed.ExitCode

namespace ChangeFeed

/-- The exit code of a command that stops with a failure. -/
def Failure.exitCode (f : Failure) : Int := ExitCode.ofKind f.kind

end ChangeFeed
