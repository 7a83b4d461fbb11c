import DataTrail.Text.Pieces

/-! Paths of files, as texts with a slash between the names. -/

namespace DataTrail.Path

/-- Whether a path starts at the root. -/
def isAbsolute (path : String) : Bool := path.toList.head? = some '/'

/-- The names of a path. Empty names and dots drop out, but a dot at the start stays. -/
def parts (path : String) : List String :=
  match Text.pieces '/' path with
  | [] => []
  | first :: rest =>
    (if first = "" then [] else [first]) ++ rest.filter fun name => name ≠ "" && name ≠ "."

/-- The path with the given names. -/
def ofParts (absolute : Bool) (names : List String) : String :=
  (if absolute then "/" else "") ++ Text.joinWith "/" names

/-- The name of the file or directory that a path leads to, unless it ends in dots. -/
def fileName? (path : String) : Option String :=
  (parts path).getLast?.filter fun name => name ≠ "." && name ≠ ".."

/-- What follows the last dot of a file name. A dot at the start of the name does not count. -/
def extension? (path : String) : Option String := do
  let name ← fileName? path
  match Text.beforeLast '.' name with
  | "" => none
  | _ => some (Text.afterLast '.' name)

/-- The path of `name` within the directory `dir`. -/
def join (dir name : String) : String :=
  if dir = "" ∨ dir.toList.getLast? = some '/' then dir ++ name else dir ++ "/" ++ name

/-- The directories that a path leads through, from the innermost to the outermost. -/
def parents (path : String) : List String :=
  let names := parts path
  (List.range names.length).reverse.map fun n => ofParts (isAbsolute path) (names.take n)

end DataTrail.Path
