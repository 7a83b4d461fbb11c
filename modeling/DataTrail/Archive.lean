import DataTrail.Disk.Basic
import DataTrail.Page
import DataTrail.Recorder
import DataTrail.Report.Form
import DataTrail.Text.Quoted

/-! A directory with one JSON file for each report. -/

namespace DataTrail.Archive

/-- Why reports could not be written or read. -/
inductive Error where
  /-- A report's name cannot be that of a file. -/
  | invalidName (name : String)
  | disk (fault : Fault)
  /-- The directory could not be listed. -/
  | listing (path : String) (fault : Fault)
deriving DecidableEq, Repr

namespace Error

/-- What is wrong, in words: first the whole, then what lies behind it. -/
def messages : Error → List String
  | .invalidName name => ["Invalid report name: " ++ Text.quote name]
  | .disk fault => ["I/O error: " ++ fault.message, fault.message]
  | .listing path fault =>
    let cause := "IO error for operation on " ++ path ++ ": " ++ fault.message
    ["Walk error: " ++ cause, cause, fault.message]

/-- What is wrong, on one line. -/
def message (e : Error) : String := e.messages.headD ""

end Error

/-- Whether a report's name can be that of a file. -/
def isFileName (name : String) : Bool :=
  name ≠ "" && !name.toList.contains '/' && !name.toList.contains '\\' && name ≠ "." && name ≠ ".."

/-- The file of a report. -/
def fileName (name : String) : Except Error String :=
  if isFileName name then .ok (name ++ ".json") else .error (.invalidName name)

variable {m : Type → Type} [Monad m]

/-- Writes a report into the directory `dir`, which is made if it is missing. -/
def write (disk : Disk m) (dir : String) (report : Report) : m (Except Error Unit) := do
  match fileName report.name with
  | .error e => return .error e
  | .ok file =>
    match ← disk.makeDirectories dir with
    | .error fault => return .error (.disk fault)
    | .ok () =>
      match ← disk.writeText (Path.join dir file) (report.render ++ "\n") with
      | .error fault => return .error (.disk fault)
      | .ok () => return .ok ()

/-- Writes reports into a directory. -/
def writer (disk : Disk m) (dir : String) : Writer m := fun report => do
  return (← write disk dir report).mapError Error.message

/-- Reads files one after the other. The first that is missing or no text ends it; one that holds no
report is left out. -/
def loadEach (disk : Disk m) : List String → m (Except Error (List Report))
  | [] => return .ok []
  | path :: rest => do
    match ← disk.readText path with
    | .error fault => return .error (.disk fault)
    | .ok text =>
      match ← loadEach disk rest with
      | .error e => return .error e
      | .ok reports => return .ok ((Report.parse? text).toList ++ reports)

/-- The reports of a directory, in the order of their file names. -/
def load (disk : Disk m) (dir : String) : m (Except Error (List Report)) := do
  match ← disk.filesIn dir with
  | .error fault => return .error (.listing dir fault)
  | .ok names =>
    let names := names.filter (Path.extension? · = some "json")
    let names := names.mergeSort fun a b => decide (a ≤ b)
    loadEach disk (names.map (Path.join dir))

/-- The file that shows the reports of a directory. -/
def pageName : String := "report.html"

/-- Writes the page that shows the reports of a directory into it, and gives its path. -/
def writePage (disk : Disk m) (dir : String) : m (Except Error String) := do
  match ← load disk dir with
  | .error e => return .error e
  | .ok reports =>
    let path := Path.join dir pageName
    let page := Page.ofReports ((Path.fileName? dir).getD "") reports
    match ← disk.writeText path page with
    | .error fault => return .error (.disk fault)
    | .ok () => return .ok path

end DataTrail.Archive
