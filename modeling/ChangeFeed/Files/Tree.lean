import ChangeFeed.Files.Path
import ChangeFeed.Text.Quoted

/-!
A tree of files.

The tree lists files and directories by the names that lead to them from the top; the directories on
the way to a listed place are there without being listed. Two dots in a path lead to the directory
above the one reached so far, which has to be there.
-/

namespace ChangeFeed

/-- What stands at a place of a tree. -/
inductive Node where
  | file (content : Text)
  | directory
  deriving DecidableEq, Repr

/-- Files and directories, and the directory that relative paths start from. -/
structure FileTree where
  nodes : List (List Text × Node)
  working : List Text
  deriving DecidableEq, Repr

/-- Why a path cannot be used. -/
inductive FileProblem where
  | missing (path : Text)
  | occupied (path : Text)
  | notDirectory (path : Text)
  | isDirectory (path : Text)
  | nameTooLong (path : Text)
  /-- The path has a null character, which no path may have. -/
  | nullCharacter
  /-- A value of this kind is no path. -/
  | noPath (kind : Text)
  /-- The user has no directory that is known. -/
  | noHome
  deriving DecidableEq, Repr

namespace FileProblem

/-- The kind of error, as reports name it. -/
def kind : FileProblem → Text
  | missing _ => "FileNotFoundError"
  | occupied _ => "FileExistsError"
  | notDirectory _ => "NotADirectoryError"
  | isDirectory _ => "IsADirectoryError"
  | nameTooLong _ => "OSError"
  | nullCharacter => "ValueError"
  | noPath _ => "TypeError"
  | noHome => "RuntimeError"

/-- The text of the error. -/
def message : FileProblem → Text
  | missing p => "[Errno 2] No such file or directory: " ++ Text.quoted p
  | occupied p => "[Errno 17] File exists: " ++ Text.quoted p
  | notDirectory p => "[Errno 20] Not a directory: " ++ Text.quoted p
  | isDirectory p => "[Errno 21] Is a directory: " ++ Text.quoted p
  | nameTooLong p => "[Errno 36] File name too long: " ++ Text.quoted p
  | nullCharacter => "embedded null byte"
  | noPath k => "expected str, bytes or os.PathLike object, not " ++ k
  | noHome => "Could not determine home directory."

end FileProblem

namespace FileTree

/-- Whether a list of names leads further than another one. -/
def isBelow (outer inner : List Text) : Bool := outer.isPrefixOf inner && outer != inner

/-- What stands at a place. -/
def node? (t : FileTree) (place : List Text) : Option Node :=
  match t.nodes.lookup place with
  | some n => some n
  | none =>
    if place = [] ∨ t.nodes.any (fun n => isBelow place n.1) then some .directory else none

/-- The number of bytes of a text. -/
def byteCount (t : Text) : Nat := t.foldr (fun c n => c.utf8Size + n) 0

/-- The most bytes that a name may have. -/
def maxNameBytes : Nat := 255

/-- The most bytes that a path may have. -/
def maxPathBytes : Nat := 4095

/-- Where a walk along names ends. -/
inductive Walk where
  | reached (place : List Text)
  | missing
  | blocked
  | tooLong
  /-- There can be no such path. -/
  | impossible
  deriving DecidableEq, Repr

/-- The walk along names from a place. A name behind a file is blocked by it. -/
def walk (t : FileTree) (place : List Text) : List Text → Walk
  | [] => .reached place
  | name :: names =>
    match t.node? place with
    | none => .missing
    | some (.file _) => .blocked
    | some .directory =>
      if name = ['.', '.'] then walk t place.dropLast names
      else if maxNameBytes < byteCount name then .tooLong
      else walk t (place ++ [name]) names

/-- The walk along a path. -/
def follow (t : FileTree) (p : Path) : Walk :=
  if p.hasNull then .impossible
  else if maxPathBytes < byteCount p.toText then .tooLong
  else walk t (if p.root = [] then t.working else []) p.names

/-- What a path leads to, if there is something. A path with a null character leads nowhere. -/
def find? (t : FileTree) (p : Path) : Except FileProblem (Option Node) :=
  match t.follow p with
  | .reached place => .ok (t.node? place)
  | .tooLong => .error (.nameTooLong p.toText)
  | _ => .ok none

/-- Whether a path leads to a file. -/
def isFile (t : FileTree) (p : Path) : Except FileProblem Bool :=
  (t.find? p).map fun
    | some (.file _) => true
    | _ => false

/-- The content of a file. -/
def read (t : FileTree) (p : Path) : Except FileProblem Text :=
  match t.follow p with
  | .impossible => .error .nullCharacter
  | .tooLong => .error (.nameTooLong p.toText)
  | .missing => .error (.missing p.toText)
  | .blocked => .error (.notDirectory p.toText)
  | .reached place =>
    match t.node? place with
    | some (.file content) => .ok content
    | some .directory => .error (.isDirectory p.toText)
    | none => .error (.missing p.toText)

/-- The tree with a node put at a place. -/
def put (t : FileTree) (place : List Text) (n : Node) : FileTree :=
  { t with nodes := (place, n) :: t.nodes.filter fun m => m.1 != place }

/-- The tree with a new directory, whose parent has to be there. -/
def makeDirectory (t : FileTree) (p : Path) : Except FileProblem FileTree :=
  match t.follow p with
  | .impossible => .error .nullCharacter
  | .tooLong => .error (.nameTooLong p.toText)
  | .missing => .error (.missing p.toText)
  | .blocked => .error (.notDirectory p.toText)
  | .reached place =>
    match t.node? place with
    | some .directory => .ok t
    | some (.file _) => .error (.occupied p.toText)
    | none => .ok (t.put place .directory)

/-- The tree with a directory and those above it, as far as they are missing; at most as many as
`fuel` are made. -/
def makeDirectories (t : FileTree) (p : Path) : Nat → Except FileProblem FileTree
  | 0 => t.makeDirectory p
  | fuel + 1 =>
    match t.makeDirectory p with
    | .error (.missing path) =>
      if p.names = [] then .error (.missing path)
      else match makeDirectories t p.parent fuel with
        | .ok t => t.makeDirectory p
        | .error e => .error e
    | r => r

/-- The tree with the content of a file replaced, in a directory that is there. -/
def write (t : FileTree) (p : Path) (content : Text) : Except FileProblem FileTree :=
  match t.follow p with
  | .impossible => .error .nullCharacter
  | .tooLong => .error (.nameTooLong p.toText)
  | .missing => .error (.missing p.toText)
  | .blocked => .error (.notDirectory p.toText)
  | .reached place =>
    match t.node? place with
    | some .directory => .error (.isDirectory p.toText)
    | _ => .ok (t.put place (.file content))

end FileTree

end ChangeFeed
