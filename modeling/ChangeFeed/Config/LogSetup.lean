import ChangeFeed.Logging.Format
import ChangeFeed.Run
import ChangeFeed.Value.Literal

/-!
The logging section of a configuration.
-/

namespace ChangeFeed.Config

/-- The format that a value stands for, unless it is one that leaves the format as it is. -/
def formatOf? (v : Value) : Except Failure (Option Text) :=
  if v.isSet then
    match v with
    | .text t =>
      if Logging.mentionsField t then .ok (some t) else .error (.logging (.format t))
    | v => .error (.misuse (.notSearched v.kindName))
  else .ok none

/-- Sets up the log as a configuration says: first the threshold, then the format. -/
def setUpLog (config : Value) : Run Unit := do
  let logging ← Run.ofExcept .misuse (config.getD "logging" (.table []))
  let level ← Run.ofExcept .misuse (logging.getD "level" (.text "INFO"))
  let name ← Run.ofExcept .numeral level.shown
  let threshold ← Run.ofExcept .logging (Logging.thresholdOf name)
  modify fun t => { t with threshold }
  let format ← Run.ofExcept .misuse (logging.getD "format" .null)
  match ← Run.ofExcept id (formatOf? format) with
  | some format => modify fun t => { t with format }
  | none => return ()

end ChangeFeed.Config
