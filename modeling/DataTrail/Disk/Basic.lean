import DataTrail.Disk.Fault
import DataTrail.Disk.Path
import DataTrail.Text.Utf8

/-! What a program can do with files. The operations are those of a real file system or of a
`FileTree`; what is built from them works on both. -/

namespace DataTrail

/-- What stands at a path. -/
inductive Disk.Kind where
  | directory
  | file
deriving DecidableEq, Repr

/-- Access to files. -/
structure Disk (m : Type → Type) where
  /-- What stands at a path. -/
  kind : String → m (Except Fault Disk.Kind)
  /-- The content of a file. -/
  read : String → m (Except Fault Bytes)
  /-- Replaces the content of a file. -/
  write : String → Bytes → m (Except Fault Unit)
  /-- Makes one directory. -/
  makeDirectory : String → m (Except Fault Unit)
  /-- The names of the files directly within a directory. A file has none. -/
  filesIn : String → m (Except Fault (List String))

namespace Disk

variable {m : Type → Type} [Monad m]

/-- Whether a directory stands at a path. -/
def isDirectory (disk : Disk m) (path : String) : m Bool := do
  match ← disk.kind path with
  | .ok .directory => return true
  | _ => return false

/-- Whether anything stands at a path. -/
def exists? (disk : Disk m) (path : String) : m Bool := do
  match ← disk.kind path with
  | .ok _ => return true
  | .error _ => return false

/-- The text of a file. -/
def readText (disk : Disk m) (path : String) : m (Except Fault String) := do
  match ← disk.read path with
  | .error fault => return .error fault
  | .ok bytes =>
    match Text.decode? bytes with
    | none => return .error .notText
    | some text => return .ok text

/-- Replaces the text of a file. -/
def writeText (disk : Disk m) (path text : String) : m (Except Fault Unit) :=
  disk.write path (Text.encode text)

/-- Makes a directory, given after it the directories it stands in, innermost first. Those are made
only if it cannot be made without. -/
def makeEach (disk : Disk m) : List String → m (Except Fault Unit)
  | [] => return .ok ()
  | path :: parents => do
    if path = "" then return .ok ()
    let settle (fault : Fault) : m (Except Fault Unit) := do
      return if ← disk.isDirectory path then .ok () else .error fault
    match ← disk.makeDirectory path with
    | .ok () => return .ok ()
    | .error .notFound =>
      match ← makeEach disk parents with
      | .error fault => return .error fault
      | .ok () =>
        match ← disk.makeDirectory path with
        | .ok () => return .ok ()
        | .error fault => settle fault
    | .error fault => settle fault

/-- Makes a directory and the directories that it stands in, as far as they are missing. -/
def makeDirectories (disk : Disk m) (path : String) : m (Except Fault Unit) :=
  disk.makeEach (path :: Path.parents path)

end Disk

end DataTrail
