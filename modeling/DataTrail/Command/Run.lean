import DataTrail.Archive
import DataTrail.CallGraph
import DataTrail.Command.Arguments
import DataTrail.DotEnv
import DataTrail.FactStream
import DataTrail.Settings.Layers

/-! What the commands do, given access to files: what they print, and how they end. -/

namespace DataTrail.Command

/-- Why a command failed: what it was about, and the causes, each behind the one before. -/
structure Failure where
  context : String
  causes : List String
deriving DecidableEq, Repr

namespace Failure

/-- Puts `margin` after each line break of a text. -/
def indentLines (margin text : String) : String :=
  Text.joinWith ("\n" ++ margin) (Text.pieces '\n' text)

/-- The lines that name the causes. Several causes are numbered. -/
def causeLines (causes : List String) : List String :=
  match causes with
  | [cause] => ["    " ++ indentLines "    " cause]
  | _ => causes.zipIdx.map fun (cause, n) =>
    Text.alignRight 5 (toString n) ++ ": " ++ indentLines "       " cause

/-- What is told about the failure. -/
def message (f : Failure) : String :=
  "Error: " ++ f.context ++ "\n\nCaused by:\n" ++
    String.join ((causeLines f.causes).map (· ++ "\n"))

end Failure

/-- What a command printed, and how it ended. -/
structure Outcome where
  output : String := ""
  /-- What goes to the error stream. -/
  messages : String := ""
  /-- What there is to say about the course of the analysis. -/
  notices : List Notice := []
  failure : Option Failure := none

/-- The outcome of a command that failed. -/
def Outcome.failed (context : String) (causes : List String) : Outcome :=
  { failure := some ⟨context, causes⟩ }

/-- A line of a box: a label and a number. -/
def boxLine (label : String) (value : Nat) : String :=
  "| " ++ label ++ String.ofList (List.replicate (15 - label.length) ' ') ++ ": " ++
    Text.alignRight 22 (toString value) ++ " |\n"

/-- A frame around lines. -/
def box (title : String) (lines : List (String × Nat)) : String :=
  let border := "+------------------------------------------+\n"
  border ++ "| " ++ title ++ String.ofList (List.replicate (41 - title.length) ' ') ++ "|\n" ++
    border ++ String.join (lines.map fun (label, value) => boxLine label value) ++ border

/-- Reports that were not written, with what each of them lacks. -/
def leftoverLines (title verb : String) (entries : List Deferred) : String :=
  if entries.isEmpty then ""
  else
    "\n" ++ title ++ ":\n" ++ String.join (entries.map fun entry =>
      "  " ++ entry.name ++ "\n" ++ String.join (entry.waitingFor.toList.map fun missing =>
        "    " ++ verb ++ " " ++ missing.display ++ "\n"))

/-- What is printed at the end of an analysis. -/
def analysisText (outputDir : String) (malformed : Nat) (r : Recorder) (s : Recorder.Summary) :
    String :=
  let tally := r.session.tally
  box "PDFLOW ANALYZE"
    [("Units", tally.unitsSeen),
     ("Skipped units", tally.unitsSkipped),
     ("Malformed units", malformed),
     ("Methods", tally.methodsRegistered),
     ("Duplicates", tally.duplicateRegistrations),
     ("Reports written", r.reportsWritten),
     ("Write failures", r.writeFailures),
     ("Retries", tally.retries),
     ("Rewrites", tally.refreshes),
     ("Unresolved", s.leftovers.unresolved.length),
     ("Out of scope", s.leftovers.external.length)] ++
  "Reports in: " ++ outputDir ++ "\n" ++
  leftoverLines "UNRESOLVED REPORTS" "waiting for" s.leftovers.unresolved ++
  leftoverLines "BLOCKED OUTSIDE NAMESPACE" "reaches" s.leftovers.external ++
  if s.partialReportsWritten = 0 then ""
  else
    "\n" ++ toString s.partialReportsWritten ++
      " partial report(s) written for unresolved entries.\n"

/-- What is printed about a call graph. -/
def graphText (g : CallGraph) : String :=
  box "PDFLOW GRAPH"
    [("Methods", g.nodes.length),
     ("Call edges", g.countEdges .call),
     ("Impl edges", g.countEdges .implementation),
     ("Unresolved", g.unresolved.length),
     ("Cycles", g.cycles.length)]

variable {m : Type → Type} [Monad m]

/-- Takes in units one after the other. -/
def ingestAll (write : Writer m) (r : Recorder) (units : List SourceUnit) :
    m (Recorder × List Notice) :=
  units.foldlM (fun (r, notices) u => do
    let (r, _, more) ← r.ingest write u
    return (r, notices ++ more)) (r, [])

/-- What a command fails with whose settings cannot be loaded. -/
def settingsFailure (e : Settings.LoadError) : Outcome :=
  .failed "Failed to load configuration" [e.message]

/-- What a command fails with whose facts cannot be read. -/
def factsFailure (facts : String) (e : FactStream.Error) : Outcome :=
  .failed ("Failed to read facts from " ++ facts) e.messages

/-- Analyzes facts. The analysis is ended properly even if the facts break off. -/
def runAnalyze (disk : Disk m) (facts : String) (settings : Settings) : m Outcome := do
  let write := Archive.writer disk settings.outputDir
  let reading ← FactStream.read disk facts
  let (r, notices) ← ingestAll write (.start settings) reading.delivery.units
  let (r, summary, more) ← r.finish write
  let notices := notices ++ more
  match reading.error with
  | some e => return { factsFailure facts e with notices }
  | none =>
    let output := analysisText settings.outputDir reading.delivery.malformed r summary
    return { output, notices }

/-- Shows the reports of a directory. -/
def runVisualize (disk : Disk m) (dir : String) : m Outcome := do
  match ← Archive.writePage disk dir with
  | .error e => return .failed ("Failed to render reports in " ++ dir) e.messages
  | .ok path => return { output := "Wrote " ++ path ++ "\n" }

/-- Prints the call graph of facts. No report is written. -/
def runGraph (disk : Disk m) (facts : String) (output : Option String) (settings : Settings) :
    m Outcome := do
  let reading ← FactStream.read disk facts
  let (r, notices) ← ingestAll (fun _ => return .ok ()) (.start settings) reading.delivery.units
  match reading.error with
  | some e => return { factsFailure facts e with notices }
  | none =>
    let g := CallGraph.ofProgram r.session.program
    match output with
    | none => return { output := g.toDot, messages := graphText g, notices }
    | some path =>
      match ← disk.writeText path g.toDot with
      | .ok () => return { messages := graphText g, notices }
      | .error fault =>
        return { Outcome.failed ("Failed to write " ++ path) [fault.message] with notices }

/-- Carries out a command. `root` is the directory of the project. -/
def run (disk : Disk m) (root : String) (env : Settings.Environment) : Command → m Outcome
  | .analyze facts out config namespaceDepth emitPartial => do
    let layer : Settings.Layer :=
      { outputDir := out
        namespaceDepth
        emitPartialOnFinish := if emitPartial then some true else none }
    match ← Settings.load disk root config env layer with
    | .error e => return settingsFailure e
    | .ok settings => runAnalyze disk facts settings
  | .visualize dir => runVisualize disk dir
  | .graph facts output config => do
    match ← Settings.load disk root config env {} with
    | .error e => return settingsFailure e
    | .ok settings => runGraph disk facts output settings

/-- How the program is used. -/
def usage : String :=
  "Personal-data flow reports from call-graph facts\n\n" ++
  "Usage: pdflow [--verbose] <COMMAND>\n\n" ++
  "Commands:\n" ++
  "  analyze <FACTS> [--out <OUT>] [--config <CONFIG>] [--namespace-depth <NAMESPACE_DEPTH>]\n" ++
  "          [--emit-partial]\n" ++
  "             Ingest a fact stream unit by unit and write one report per unit with entry\n" ++
  "             points\n" ++
  "  visualize <DIR>\n" ++
  "             Render every report in a directory into a single report.html\n" ++
  "  graph <FACTS> [--output <OUTPUT>] [--config <CONFIG>]\n" ++
  "             Print the registered call graph as Graphviz DOT\n" ++
  "  help       Print this message\n"

/-- What a run of the program printed, and its exit code. -/
structure Exit where
  code : Nat
  output : String := ""
  messages : String := ""
  verbose : Bool := false
  notices : List Notice := []

/-- The run of the program with the given arguments, in the given environment. `root` is the current
directory, and `warning` is told first. -/
def serve (disk : Disk m) (root : String) (environment : List (String × String))
    (warning : String) (args : List String) : m Exit := do
  match parse args with
  | .misuse => return { code := 2, messages := warning ++ usage }
  | .help => return { code := 0, output := usage, messages := warning }
  | .run verbose command =>
    let outcome ← run disk root (environment.lookup ·) command
    let (code, failure) := match outcome.failure with
      | none => (0, "")
      | some f => (1, f.message)
    return { code
             output := outcome.output
             messages := warning ++ outcome.messages ++ failure
             verbose
             notices := outcome.notices }

/-- The run of the program with the given arguments. `directories` are the current directory and
those that it stands in; variables are looked for in a file of one of them too. -/
def execute (disk : Disk m) (directories : List String) (environment : List (String × String))
    (args : List String) : m Exit := do
  let (environment, error) ← DotEnv.load disk environment directories
  let root := directories.headD "."
  match error with
  | none => serve disk root environment "" args
  | some e =>
    if e.isFatal then return { code := 101, messages := e.message ++ "\n" }
    else
      serve disk root environment
        ("warning: " ++ DotEnv.fileName ++ ": " ++ e.message ++ "\n") args

end DataTrail.Command
