import DataTrail.Session.Ingest
import DataTrail.Session.Finish

/-! A recorder runs an analysis and writes each report as soon as it is complete. How a report is
written is a parameter; a report that cannot be written is counted and named, and the analysis goes
on. -/

namespace DataTrail

/-- Writes a report, or says why it could not be written. -/
abbrev Writer (m : Type → Type) := Report → m (Except String Unit)

/-- Keeps every report, in the order of writing. -/
def keepReport : Writer (StateM (List Report)) := fun report => do
  modify (· ++ [report])
  return .ok ()

/-- An analysis and the counts of its writes. -/
structure Recorder where
  session : Session
  reportsWritten : Nat := 0
  writeFailures : Nat := 0

namespace Recorder

variable {m : Type → Type} [Monad m] (write : Writer m)

/-- A recorder for a new analysis. -/
def start (settings : Settings) : Recorder := { session := .start settings }

/-- Writes a report. A failure is named and counted; the second part tells whether the report is
written. -/
def emit (r : Recorder) (report : Report) : m (Recorder × Bool) := do
  match ← write report with
  | .ok () => return ({ r with reportsWritten := r.reportsWritten + 1 }, true)
  | .error error =>
    return ({ r with
        session := r.session.note (.writeFailed report.name error)
        writeFailures := r.writeFailures + 1 }, false)

/-- Writes a report that is complete. -/
def deliver (r : Recorder) : Verdict → m Recorder
  | .finalized report => do
    let (r, _) ← r.emit write report
    return r
  | _ => return r

/-- Resolves the entry points of the report `name`, and writes the report if it is complete. -/
def resolve (r : Recorder) (name : String) (entryPoints : List MethodId) :
    m (Recorder × Verdict) := do
  let (s, verdict) := r.session.judge name entryPoints
  let r ← { r with session := s }.deliver write verdict
  return (r, verdict)

/-- Resolves a unit's own entry points, if it declares any. -/
def resolveUnit (r : Recorder) (u : SourceUnit) : m (Recorder × Option Verdict) :=
  match u.entryPoints with
  | [] => return (r, none)
  | entryPoints => do
    let (r, verdict) ← r.resolve write u.name entryPoints
    return (r, some verdict)

/-- Tries one deferred report again. -/
def retry : Recorder × List (String × Verdict) → Deferred → m (Recorder × List (String × Verdict))
  | (r, retried), entry => do
    let r := { r with session := r.session.beginRetry entry.name }
    let (r, verdict) ← r.resolve write entry.name entry.entryPoints
    return (r, retried ++ [(entry.name, verdict)])

/-- Tries the reports again that `announced` have released. -/
def retryReleased (r : Recorder) (announced : List MethodId) :
    m (Recorder × List (String × Verdict)) :=
  let (s, released) := r.session.release announced
  released.foldlM (retry write) ({ r with session := s }, [])

/-- Resolves one report again, if it is written. -/
def refresh : Recorder × List (String × Verdict) → String → m (Recorder × List (String × Verdict))
  | (r, refreshed), name =>
    match r.session.finalized[name]? with
    | none => return (r, refreshed)
    | some entryPoints => do
      let r := { r with session := r.session.beginRefresh name }
      let (r, verdict) ← r.resolve write name entryPoints
      return (r, refreshed ++ [(name, verdict)])

/-- Takes in a unit that is not left out. -/
def absorbUnit (r : Recorder) (u : SourceUnit) : m (Recorder × Outcome) := do
  let (s, done) := r.session.registerUnit u
  let r := { r with session := s }
  let (r, verdict) ← r.resolveUnit write u
  let (r, retried) ← r.retryReleased write done.announced
  let stale := r.session.readersOf done.widened (Session.resolvedNames u verdict retried)
  let (r, refreshed) ← stale.toList.foldlM (refresh write) (r, [])
  return (r,
    { registered := done.registered, duplicates := done.duplicates, verdict, retried, refreshed })

/-- Takes in one unit, or leaves it out. -/
def takeUnit (r : Recorder) (u : SourceUnit) : m (Recorder × Outcome) :=
  let s := r.session.countUnit
  if r.session.settings.skipsUnit u.name then
    return ({ r with session := s.skipUnit u }, { skipped := true })
  else { r with session := s }.absorbUnit write u

/-- The reports left unwritten, and how many of them were written as far as they go. -/
structure Summary where
  leftovers : Leftovers
  partialReportsWritten : Nat

/-- Names one unwritten report, and writes what is known of it if the settings ask for it. The second
part counts the reports that are written in this way. -/
def close (notice : String → List MethodId → Notice) :
    Recorder × Nat → Deferred → m (Recorder × Nat)
  | (r, written), entry => do
    let (s, part) := r.session.nameUnwritten notice entry
    let r := { r with session := s }
    match part with
    | none => return (r, written)
    | some report =>
      let (r, done) ← r.emit write report
      return (r, if done then written + 1 else written)

/-- Ends the analysis. -/
def closeAll (r : Recorder) : m (Recorder × Summary) := do
  let (s, left) := r.session.letGo
  let r := { r with session := s }
  let closed ← left.unresolved.foldlM (close write .neverResolved) (r, 0)
  let (r, written) ← left.external.foldlM (close write .blockedOutside) closed
  return (r, ⟨left, written⟩)

/-- Says what there is to say. -/
def flush (r : Recorder) : Recorder × List Notice :=
  ({ r with session := r.session.clearJournal }, r.session.notices)

/-- Takes in one unit. -/
def ingest (r : Recorder) (u : SourceUnit) : m (Recorder × Outcome × List Notice) := do
  let (r, outcome) ← r.takeUnit write u
  let (r, notices) := r.flush
  return (r, outcome, notices)

/-- Resolves the entry points of one report. -/
def handle (r : Recorder) (name : String) (entryPoints : List MethodId) :
    m (Recorder × Verdict × List Notice) := do
  let (r, verdict) ← r.resolve write name entryPoints
  let (r, notices) := r.flush
  return (r, verdict, notices)

/-- Ends the analysis. -/
def finish (r : Recorder) : m (Recorder × Summary × List Notice) := do
  let (r, summary) ← r.closeAll write
  let (r, notices) := r.flush
  return (r, summary, notices)

end Recorder

end DataTrail
