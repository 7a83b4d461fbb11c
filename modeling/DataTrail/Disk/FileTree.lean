import DataTrail.Disk.Basic
import DataTrail.MethodId

/-! A file system as a value: directories and files by the names that lead to them from the root.
Paths that do not start at the root start at the current directory. -/

namespace DataTrail

/-- A directory, or a file with its content. -/
inductive FileTree.Node where
  | directory
  | file (content : Bytes)
deriving DecidableEq, Repr

/-- Where something stands: the names from the root to it. -/
abbrev FileTree.Place := List String

/-- Directories and files. The root is always a directory. -/
structure FileTree where
  nodes : Std.ExtTreeMap FileTree.Place FileTree.Node
  /-- The current directory. -/
  current : FileTree.Place

namespace FileTree

/-- The tree whose only directories are `current` and those that it stands in. -/
def empty (current : Place) : FileTree :=
  let above := (List.range current.length).map fun n => (current.take (n + 1), Node.directory)
  { nodes := .ofList above, current }

/-- What stands at a place. -/
def find? (t : FileTree) : Place → Option Node
  | [] => some .directory
  | place => t.nodes[place]?

/-- Puts a node at a place. -/
def put (t : FileTree) (place : Place) (node : Node) : FileTree :=
  { t with nodes := t.nodes.insert place node }

/-- The longest name that a file can have, in bytes. -/
def nameLimit : Nat := 255

/-- Paths have to be shorter than this, in bytes. -/
def pathLimit : Nat := 4096

/-- Checks a path before it is followed. -/
def check (path : String) : Except Fault Unit :=
  if path.toList.contains '\x00' then .error .nulInPath
  else if path = "" then .error .notFound
  else if path.utf8ByteSize ≥ pathLimit then .error .nameTooLong
  else .ok ()

/-- Follows one name from a place, which has to be a directory. -/
def follow (t : FileTree) (place : Place) (name : String) : Except Fault Place :=
  match t.find? place with
  | none => .error .notFound
  | some (.file _) => .error .notDirectory
  | some .directory =>
    if name = "" ∨ name = "." then .ok place
    else if name = ".." then .ok place.dropLast
    else if name.utf8ByteSize > nameLimit then .error .nameTooLong
    else .ok (place ++ [name])

/-- Where a path starts. -/
def start (t : FileTree) (path : String) : Place :=
  if Path.isAbsolute path then [] else t.current

/-- The place that a path leads to, and what stands there. -/
def locate (t : FileTree) (path : String) : Except Fault (Place × Node) := do
  check path
  let place ← (Text.pieces '/' path).foldlM t.follow (t.start path)
  match t.find? place with
  | none => .error .notFound
  | some node => .ok (place, node)

/-- The directory in which a path ends and the last name of the path, which has none if it ends in
dots. -/
def locateEnd (t : FileTree) (path : String) : Except Fault (Place × Option String) := do
  check path
  let names := ((Text.pieces '/' path).reverse.dropWhile (· = "")).reverse
  let place ← names.dropLast.foldlM t.follow (t.start path)
  let name := (names.getLast?).filter fun name => name ≠ "." && name ≠ ".."
  let place' ← t.follow place ""
  return (place', name)

/-- Whether a path ends in a slash. -/
def endsInSlash (path : String) : Bool := path.toList.getLast? = some '/'

/-- Makes a file or replaces its content. -/
def write (t : FileTree) (path : String) (content : Bytes) : Except Fault FileTree := do
  let (place, name) ← t.locateEnd path
  match name with
  | none => .error .isDirectory
  | some name =>
    if endsInSlash path then .error .isDirectory
    else
      let place ← t.follow place name
      match t.find? place with
      | some .directory => .error .isDirectory
      | _ => .ok (t.put place (.file content))

/-- Makes a directory. -/
def makeDirectory (t : FileTree) (path : String) : Except Fault FileTree := do
  let (place, name) ← t.locateEnd path
  match name with
  | none => .error .alreadyExists
  | some name =>
    let place ← t.follow place name
    match t.find? place with
    | some _ => .error .alreadyExists
    | none => .ok (t.put place .directory)

/-- The content of a file. -/
def read (t : FileTree) (path : String) : Except Fault Bytes := do
  match ← t.locate path with
  | (_, .directory) => .error .isDirectory
  | (_, .file content) => .ok content

/-- What stands at a path. -/
def kind (t : FileTree) (path : String) : Except Fault Disk.Kind := do
  match ← t.locate path with
  | (_, .directory) => .ok .directory
  | (_, .file _) => .ok .file

/-- The files of the tree below a place, each with the names that lead from the place to it, in
order. -/
def filesBelow (t : FileTree) (place : Place) : List (Place × Bytes) :=
  t.nodes.toList.filterMap fun (p, node) =>
    match node with
    | .file content => if place.isPrefixOf p then some (p.drop place.length, content) else none
    | .directory => none

/-- The names of the files directly within a directory, in order. -/
def filesIn (t : FileTree) (path : String) : Except Fault (List String) := do
  match ← t.locate path with
  | (_, .file _) => .ok []
  | (place, .directory) =>
    .ok ((t.filesBelow place).filterMap fun (p, _) =>
      match p with
      | [name] => some name
      | _ => none)

/-- Changes a tree, unless the change fails. -/
def change (f : FileTree → Except Fault FileTree) : StateM FileTree (Except Fault Unit) := do
  match f (← get) with
  | .ok t =>
    set t
    return .ok ()
  | .error fault => return .error fault

/-- A tree as a disk. -/
def disk : Disk (StateM FileTree) where
  kind path := return (← get).kind path
  read path := return (← get).read path
  write path content := change (·.write path content)
  makeDirectory path := change (·.makeDirectory path)
  filesIn path := return (← get).filesIn path

/-- Puts a node and the directories it stands in where a path from the current directory leads. -/
def place (t : FileTree) (path : String) (node : Node) : FileTree :=
  let at' := t.current ++ Path.parts path
  let made := (List.range at'.length).foldl (fun t n =>
    let above := at'.take n
    if (t.find? above).isSome then t else t.put above .directory) t
  made.put at' node

end FileTree

end DataTrail
