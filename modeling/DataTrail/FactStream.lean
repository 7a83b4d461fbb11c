import DataTrail.Disk.Basic
import DataTrail.Facts.Form
import DataTrail.Gzip
import DataTrail.Text.Blank
import DataTrail.Text.Lines

/-! Fact files: one unit on each line, in JSON. A line that holds no unit is counted and left out;
only a file that cannot be read is an error. -/

namespace DataTrail.FactStream

/-- What a line holds. -/
inductive Line where
  | blank
  | unit (u : SourceUnit)
  | malformed
deriving DecidableEq, Repr

/-- Reads a line. Blanks around the unit do not count. -/
def Line.ofBytes (bytes : Bytes) : Line :=
  match Text.decode? bytes with
  | none => .malformed
  | some text =>
    match Text.trim text.toList with
    | [] => .blank
    | cs =>
      match SourceUnit.parse? (String.ofList cs) with
      | none => .malformed
      | some u => .unit u

/-- What lines hold. -/
structure Delivery where
  units : List SourceUnit := []
  malformed : Nat := 0
deriving DecidableEq, Repr

/-- What lines hold together. -/
def Delivery.ofLines (ls : List Line) : Delivery :=
  { units := ls.filterMap fun
      | .unit u => some u
      | _ => none
    malformed := ls.countP (· = .malformed) }

/-- What the content of a fact file delivers. -/
def deliver (bytes : Bytes) : Delivery := .ofLines ((Text.lines bytes).map Line.ofBytes)

/-- What went wrong while reading. -/
inductive Cause where
  | disk (fault : Fault)
  | gzip (fault : Gzip.Fault)
deriving DecidableEq, Repr

/-- What went wrong, in words. -/
def Cause.message : Cause → String
  | .disk fault => fault.message
  | .gzip fault => fault.message

/-- Why a fact file could not be read to its end. -/
inductive Error where
  | opening (path : String) (cause : Cause)
  | reading (path : String) (line : Nat) (cause : Cause)
deriving DecidableEq, Repr

/-- What is wrong, in words: first the whole, then what lies behind it. -/
def Error.messages : Error → List String
  | .opening path cause => ["Failed to open " ++ path ++ ": " ++ cause.message, cause.message]
  | .reading path line cause =>
    ["Failed to read " ++ path ++ " at line " ++ toString line ++ ": " ++ cause.message,
     cause.message]

/-- What a file delivered, and the error that ended it, if one did. -/
structure Reading where
  delivery : Delivery := {}
  error : Option Error := none

/-- Whether a file is compressed. -/
def isCompressed (path : String) : Bool := Path.extension? path = some "gz"

/-- What bytes deliver that end in an error. A line that the error cuts off is left out. -/
def deliverBroken (path : String) (bytes : Bytes) (cause : Cause) : Reading :=
  let (ended, _) := Text.endedLines bytes
  { delivery := .ofLines (ended.map Line.ofBytes)
    error := some (.reading path (ended.length + 1) cause) }

/-- What the bytes of a file deliver. -/
def deliverFile (path : String) (bytes : Bytes) : Reading :=
  if isCompressed path then
    let decoded := Gzip.decode bytes
    match decoded.fault with
    | none => { delivery := deliver decoded.content }
    | some fault => deliverBroken path decoded.content (.gzip fault)
  else { delivery := deliver bytes }

/-- Reads a fact file. A directory can be opened, but not read. -/
def read {m : Type → Type} [Monad m] (disk : Disk m) (path : String) : m Reading := do
  match ← disk.read path with
  | .ok bytes => return deliverFile path bytes
  | .error .isDirectory => return deliverBroken path [] (.disk .isDirectory)
  | .error fault => return { error := some (.opening path (.disk fault)) }

end DataTrail.FactStream
