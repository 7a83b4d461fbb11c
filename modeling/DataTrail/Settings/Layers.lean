import DataTrail.Disk.Basic
import DataTrail.Settings
import DataTrail.Text.Blank
import DataTrail.Text.Decimal
import DataTrail.Toml.Parser

/-! Where settings come from. The defaults are replaced, one layer after the other, by what a
settings file, the environment and the command line say. What is valid is decided once all layers
have been applied. -/

namespace DataTrail.Settings

/-- What one layer says. -/
structure Layer where
  outputDir : Option String := none
  namespaceDepth : Option Nat := none
  skipUnitSuffixes : Option (List String) := none
  emitPartialOnFinish : Option Bool := none
deriving DecidableEq, Repr

/-- Replaces what a layer says. -/
def apply (s : Settings) (l : Layer) : Settings :=
  { outputDir := l.outputDir.getD s.outputDir
    namespaceDepth := l.namespaceDepth.getD s.namespaceDepth
    skipUnitSuffixes := l.skipUnitSuffixes.getD s.skipUnitSuffixes
    emitPartialOnFinish := l.emitPartialOnFinish.getD s.emitPartialOnFinish }

/-- A text in a settings file. -/
def fileText? : Toml → Option String
  | .string text => some text
  | _ => none

/-- A natural number in a settings file. -/
def fileNatural? : Toml → Option Nat
  | .integer n => n.toNat?
  | _ => none

/-- A truth value in a settings file. -/
def fileBoolean? : Toml → Option Bool
  | .boolean b => some b
  | _ => none

/-- A list of texts in a settings file. -/
def fileTexts? : Toml → Option (List String)
  | .array items => items.mapM fileText?
  | _ => none

/-- A key that may be missing, but whose value must be of its type. -/
def fileKey? (entries : Toml.Entries) (key : String) (read : Toml → Option α) : Option (Option α) :=
  match entries.lookup key with
  | none => some none
  | some value => (read value).map some

/-- What a settings file says. Keys that no setting has are left out. -/
def Layer.ofFile? (text : String) : Option Layer := do
  let entries ← Toml.parse? text
  return { outputDir := ← fileKey? entries "output_dir" fileText?
           namespaceDepth := ← fileKey? entries "namespace_depth" fileNatural?
           skipUnitSuffixes := ← fileKey? entries "skip_unit_suffixes" fileTexts?
           emitPartialOnFinish := ← fileKey? entries "emit_partial_on_finish" fileBoolean? }

/-- The variables of an environment. -/
abbrev Environment := String → Option String

/-- What the environment says. An empty directory and a depth that is no number count as unset. -/
def Layer.ofEnvironment (env : Environment) : Layer :=
  { outputDir := (env "PDFLOW_OUTPUT_DIR").filter (· ≠ "")
    namespaceDepth := (env "PDFLOW_NAMESPACE_DEPTH").bind fun value =>
      Text.signedWord? (Text.trim value.toList) }

/-- Why settings could not be loaded. -/
inductive LoadError where
  | fileNotFound (path : String)
  | unparsable (path : String)
  | invalid (cause : Invalid)
deriving DecidableEq, Repr

/-- What is wrong, in words. -/
def LoadError.message : LoadError → String
  | .fileNotFound path => "Config file not found: " ++ path
  | .unparsable path => "Failed to parse " ++ path ++ ": invalid TOML"
  | .invalid cause => cause.message

/-- Settings that are valid. -/
def checked (s : Settings) : Except LoadError Settings :=
  match s.validate with
  | .ok () => .ok s
  | .error cause => .error (.invalid cause)

/-- The settings that the text of a settings file gives on its own; `path` is only named. -/
def ofFile (path text : String) : Except LoadError Settings :=
  match Layer.ofFile? text with
  | none => .error (.unparsable path)
  | some layer => checked (({} : Settings).apply layer)

/-- The name of the settings file of a project. -/
def projectFile : String := "pdflow.toml"

variable {m : Type → Type} [Monad m]

/-- Reads a settings file. -/
def readFile (disk : Disk m) (path : String) : m (Except LoadError Layer) := do
  match ← disk.readText path with
  | .error _ => return .error (.fileNotFound path)
  | .ok text =>
    match Layer.ofFile? text with
    | none => return .error (.unparsable path)
    | some layer => return .ok layer

/-- What the settings file says: the one that is asked for, or else that of the project in `root` if
there is one. -/
def fileLayer (disk : Disk m) (root : String) (explicit : Option String) :
    m (Except LoadError Layer) := do
  match explicit with
  | some path => readFile disk path
  | none =>
    let path := Path.join root projectFile
    if ← disk.exists? path then readFile disk path else return .ok {}

/-- The settings of all layers together. -/
def load (disk : Disk m) (root : String) (explicit : Option String) (env : Environment)
    (command : Layer) : m (Except LoadError Settings) := do
  match ← fileLayer disk root explicit with
  | .error e => return .error e
  | .ok file =>
    return checked (((({} : Settings).apply file).apply (.ofEnvironment env)).apply command)

end DataTrail.Settings
