import ChangeFeed.Config.Merge
import ChangeFeed.Config.Overrides
import ChangeFeed.Json.Reader
import ChangeFeed.Json.Writer
import ChangeFeed.Run
import ChangeFeed.Text.Lines

/-!
The configuration file: where it is, how it is read and how it is saved.

What a file says is laid over the defaults, and variables over both. A file that cannot be read or
saved is reported in the log and changes nothing else.
-/

namespace ChangeFeed.Config

/-- The language of a configuration file. -/
inductive FileFormat where
  | json
  | toml
  | yaml
  deriving DecidableEq, Repr

/-- The language that the suffix of a path tells, JSON if it tells none. -/
def FileFormat.ofPath (p : Path) : FileFormat :=
  let suffix := Text.lower p.suffix
  if suffix = ".toml".toList then toml
  else if suffix = ".yaml".toList ∨ suffix = ".yml".toList then yaml
  else json

/-- The names under which a configuration file is looked for, in order. -/
def fileNames : List Text := ["config.json", "config.toml", "config.yaml", "config.yml"]

/-- The directory of the user: the one that a variable names, else the one that the system knows. A
tilde stands for that directory, so it cannot be the start of the path to it. -/
def home (s : Surroundings) : Except FileProblem Path :=
  match ((s.environment.lookup "HOME".toList).or s.home).map (Text.dropEndWhile (· == '/')) with
  | none | some ('~' :: _) => .error .noHome
  | some [] => .ok (.ofText "/")
  | some t => .ok (.ofText t)

/-- The directory of the user in which configuration files are kept. -/
def directory (s : Surroundings) : Except FileProblem Path :=
  (home s).map fun p => p.append (.ofText ".defevents")

/-- Whether a path leads to something that is not an empty file. -/
def hasContent (files : FileTree) (p : Path) : Except FileProblem Bool :=
  (files.find? p).map fun
    | none | some (.file []) => false
    | some _ => true

/-- The first of some paths that does not lead to nothing or to an empty file. -/
def firstWithContent? (files : FileTree) : List Path → Except FileProblem (Option Path)
  | [] => .ok none
  | p :: ps => do
    if ← hasContent files p then return some p else firstWithContent? files ps

/-- The path of the configuration file: the one that a variable names, if something is there, else
the first one with content in the directory of the user, else the place for a new one. -/
def pathIn (s : Surroundings) (files : FileTree) : Except FileProblem Path := do
  let named := (s.environment.lookup fileVariable).map Path.ofText
  let found ← match named with
    | some p => (files.find? p).map Option.isSome
    | none => pure false
  match found, named with
  | true, some p => return p
  | _, _ =>
    let directory ← directory s
    let places := fileNames.map fun n => directory.append (.ofText n)
    return (← firstWithContent? files places).getD (directory.append (.ofText "config.json"))

/-- The path of the configuration file. -/
def path : Run Path := do
  Run.ofExcept .file (pathIn (← read) (← get).files)

/-- The configuration that the content of a file stands for. -/
def decode (s : Surroundings) (format : FileFormat) (content : Text) : Except Failure Value :=
  match format with
  | .json => Json.read s.depth (Text.newlinesOnly content)
  | .toml => ((Toml.read content).map .table).mapError .toml
  | .yaml =>
    (s.libraries.readYaml (Text.newlinesOnly content)).map fun v =>
      if v.isSet then v else .table []

/-- The defaults with the content of a file laid over them. -/
def readFile (s : Surroundings) (files : FileTree) (p : Path) : Except Failure Value := do
  let content ← (files.read p).mapError Failure.file
  let v ← decode s (.ofPath p) content
  (merge (.table defaults) v).mapError Failure.misuse

/-- The configuration: the defaults under the file under the variables. -/
def load : Run Value := do
  let p ← path
  let files := (← get).files
  let fromFile ←
    if (← Run.ofExcept .file (files.find? p)).isSome then
      match readFile (← read) files p with
      | .ok v => pure v
      | .error f => do
        Run.log .error ("Error loading config from " ++ p.toText ++ ": " ++ f.message)
        pure (.table defaults)
    else pure (.table defaults)
  Run.ofExcept id (overrideAll (← read).environment fromFile)

/-- The content of a file that holds a configuration. -/
def encode (s : Surroundings) (format : FileFormat) (v : Value) : Except Failure Text :=
  match format with
  | .json => do
    let ps ← (Json.write { ascii := true, indent := some (.spaces 2) } v).mapError .unwritable
    ps.encode.mapError .unencodable
  | .yaml => .ok (s.libraries.writeYaml v)
  | .toml => s.libraries.writeToml v

/-- The files after a configuration has been saved, and what went wrong on the way, if something
did. A file whose content cannot be written is left empty. -/
def writeFile (s : Surroundings) (files : FileTree) (p : Path) (v : Value) :
    FileTree × Option Failure :=
  match files.makeDirectories p.parent p.names.length with
  | .error e => (files, some (.file e))
  | .ok files =>
    match files.write p [] with
    | .error e => (files, some (.file e))
    | .ok emptied =>
      match encode s (.ofPath p) v with
      | .error f => (emptied, some f)
      | .ok content =>
        match files.write p content with
        | .error e => (emptied, some (.file e))
        | .ok written => (written, none)

/-- The path that a value stands for; a value that is not set stands for none. -/
def placeOf? (place : Value) : Except FileProblem (Option Path) :=
  if place.isSet then
    match place with
    | .text t => .ok (some (.ofText t))
    | v => .error (.noPath v.kindName)
  else .ok none

/-- Saves a configuration, at the path of the configuration file if no other one is given, and
returns the path. -/
def save (v : Value) (place : Option Path) : Run Path := do
  let p ← match place with
    | some p => pure p
    | none => path
  let (files, problem) := writeFile (← read) (← get).files p v
  modify fun t => { t with files }
  match problem with
  | none => Run.log .info ("Configuration saved to " ++ p.toText)
  | some f => Run.log .error ("Error saving config to " ++ p.toText ++ ": " ++ f.message)
  return p

end ChangeFeed.Config
