import ChangeFeed.Failure
import ChangeFeed.Text.LetterCase

/-!
Settings from environment variables.

The name of a variable leads to a setting: behind the common start, its parts between underscores
are matched with the keys of the configuration, at each level with the longest key that fits. A
variable that leads to no setting changes nothing, and no variable adds a key. A table is looked
through only if all its keys are texts.
-/

namespace ChangeFeed.Config

/-- The start of the names of variables that override settings. -/
def variableStart : Text := "DEFEVENTS_"

/-- The variable that names the configuration file, which overrides no setting. -/
def fileVariable : Text := "DEFEVENTS_CONFIG"

/-- The parts of a name between underscores. -/
def nameParts (t : Text) : List Text := t.splitOn '_'

/-- The parts of the path that a variable names, if it is to override a setting. -/
def pathOf? (name : Text) : Option (List Text) :=
  if name = fileVariable then none
  else (Text.rest? variableStart name).map fun t => nameParts (Text.lower t)

/-- The value that the text of a variable stands for: a truth value, a whole number or the text. -/
def valueOf (t : Text) : Except Numeral.Problem Value :=
  let lower := Text.lower t
  if lower = "true".toList ∨ lower = "yes".toList ∨ lower = "on".toList then .ok (.bool true)
  else if lower = "false".toList ∨ lower = "no".toList ∨ lower = "off".toList then
    .ok (.bool false)
  else if Text.isDigitText t then (Numeral.read t).map .int
  else .ok (.text t)

/-- The longer of two keys, the first one if their parts are equally many. -/
def longerKey (a : Option Text) (b : Text) : Option Text :=
  match a with
  | none => some b
  | some a => if (nameParts a).length < (nameParts b).length then some b else some a

/-- Keys that are looked through for the parts of a name, which all have to be texts. A half of a
character stands in no name. -/
def searched : List Key → Except Misuse (List Text)
  | [] => .ok []
  | .text t :: ks => (searched ks).map (t :: ·)
  | .broken _ :: ks => searched ks
  | k :: _ => .error (.noMember k.toValue.kindName "split")

/-- The key at which a path enters a table with the given keys. -/
def keyFor? (keys path : List Text) : Option Text :=
  ((keys.filter fun k => (nameParts k).isPrefixOf path).foldl longerKey none).filter (· ≠ [])

/-- The table with the setting at a path replaced; a path of `fuel` parts can be followed to its
end. -/
def replaceAt (v : Value) : Nat → List Text → Table → Except Misuse Table
  | 0, _, t => .ok t
  | fuel + 1, path, t =>
    match searched t.keys with
    | .error e => .error e
    | .ok keys =>
      match keyFor? keys path with
      | none => .ok t
      | some key =>
        match path.drop (nameParts key).length with
        | [] => .ok (t.set key v)
        | rest =>
          match t.get? key with
          | some (.table inner) =>
            (replaceAt v fuel rest inner).map fun inner => t.set key (.table inner)
          | _ => .ok t

/-- A configuration after one variable. -/
def override (config : Value) (setting : Text × Text) : Except Failure Value :=
  match pathOf? setting.1 with
  | none => .ok config
  | some path => do
    let v ← (valueOf setting.2).mapError Failure.numeral
    let t ← (config.entriesFor "keys").mapError Failure.misuse
    return .table (← (replaceAt v path.length path t).mapError Failure.misuse)

/-- A configuration after all variables, in their order. -/
def overrideAll (environment : List (Text × Text)) (config : Value) : Except Failure Value :=
  environment.foldlM override config

end ChangeFeed.Config
