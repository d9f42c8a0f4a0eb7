import ChangeFeed.Text.LetterCase
import ChangeFeed.Text.Quoted

/-!
Levels of the log.

A record has a severity, and the log keeps the records that reach its threshold. A threshold of zero
leaves the choice to the log that this one is part of, which keeps records from `info` on.
-/

namespace ChangeFeed.Logging

/-- How grave a record is. -/
inductive Severity where
  | debug
  | info
  | warning
  | error
  deriving DecidableEq, Repr

/-- The name of a severity in the log. -/
def Severity.name : Severity → Text
  | debug => "DEBUG"
  | info => "INFO"
  | warning => "WARNING"
  | error => "ERROR"

/-- The number of a severity, to be compared with thresholds. -/
def Severity.number : Severity → Nat
  | debug => 10
  | info => 20
  | warning => 30
  | error => 40

/-- The threshold of a log that has none of its own. -/
def defaultThreshold : Nat := Severity.info.number

/-- The threshold that decides. -/
def effective (threshold : Nat) : Nat := if threshold = 0 then defaultThreshold else threshold

/-- Why a log cannot be set up. -/
inductive Problem where
  /-- The name stands for a text, which is no threshold. -/
  | unknownLevel (t : Text)
  /-- The name stands for the table of format styles, which is no threshold. -/
  | styleTable
  /-- The format mentions no field of a record. -/
  | format (t : Text)
  deriving DecidableEq, Repr

namespace Problem

/-- The basic format of records, as the table of format styles has it for each style. -/
def basicFormat : Text := "%(levelname)s:%(name)s:%(message)s"

/-- The kind of error, as reports name it. -/
def kind : Problem → Text
  | styleTable => "TypeError"
  | _ => "ValueError"

/-- The text of the error. -/
def message : Problem → Text
  | unknownLevel t => "Unknown level: " ++ Text.quoted t
  | styleTable =>
    "Level not an integer or a valid string: \x7b'%': (<class 'logging.PercentStyle'>, " ++
      Text.quoted basicFormat ++ "), '\x7b': (<class 'logging.StrFormatStyle'>, " ++
      "'\x7blevelname\x7d:\x7bname\x7d:\x7bmessage\x7d'), '$': " ++
      "(<class 'logging.StringTemplateStyle'>, " ++
      "'$\x7blevelname\x7d:$\x7bname\x7d:$\x7bmessage\x7d')\x7d"
  | format t => "Invalid format '" ++ t ++ "' for '%' style"

end Problem

/-- The thresholds that have a name. -/
def thresholds : List (String × Nat) := [
  ("CRITICAL", 50), ("FATAL", 50), ("ERROR", 40), ("WARN", 30), ("WARNING", 30), ("INFO", 20),
  ("DEBUG", 10), ("NOTSET", 0)]

/-- The threshold that a name of any case stands for; a name without a meaning stands for `info`. -/
def thresholdOf (name : Text) : Except Problem Nat :=
  let upper := Text.upperAscii name
  if upper = "BASIC_FORMAT".toList then .error (.unknownLevel Problem.basicFormat)
  else if upper = "_STYLES".toList then .error .styleTable
  else .ok ((thresholds.lookup (String.ofList upper)).getD Severity.info.number)

end ChangeFeed.Logging
