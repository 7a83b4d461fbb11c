import DataTrail.Session.Basic

/-! Resolving the entry points of one report, from scratch, and acting on what was found: the report
is handed over, deferred, or blocked. -/

namespace DataTrail

/-- A report with what its entry points reach. -/
structure Survey where
  report : Report
  findings : Findings

/-- Resolves each entry point on its own: the report has one purpose for each of them, in order, and
the findings are those of all of them together. -/
def Program.survey (p : Program) (depth : Nat) (name : String) (entryPoints : List MethodId) :
    Survey :=
  let found := entryPoints.map fun e => (e, p.resolveEntry depth e)
  { report := .ofPurposes name
      (found.map fun (e, f) => .ofData e.display f.categories f.disclosures)
    findings := found.foldl (fun all (_, f) => all.union f) {} }

namespace Session

/-- The report `name` as the program known so far gives it. -/
def survey (s : Session) (name : String) (entryPoints : List MethodId) : Survey :=
  s.program.survey s.settings.namespaceDepth name entryPoints

/-- Says which external methods the entry points reach. -/
def noteExternal (s : Session) (entryPoints : List MethodId) : Session :=
  s.noteAll (entryPoints.flatMap fun e =>
    (s.program.externalVisits s.settings.namespaceDepth e).map .outsideNamespace)

/-- Blocks a report, which takes it off the wait-list. -/
def block (s : Session) (name : String) (entryPoints : List MethodId) (external : MethodSet) :
    Session :=
  let s := { s with waitList := s.waitList.remove name }
  let s := s.note (.reportBlocked name external.size)
  { s with blocked := s.blocked.insert name ⟨name, entryPoints, external⟩ }

/-- Defers a report until the methods of `pending` have arrived. -/
def postpone (s : Session) (name : String) (entryPoints : List MethodId) (pending : MethodSet) :
    Session :=
  let entry := s.waitList.deferral name entryPoints pending s.program.isMissing
  let s := { s with waitList := s.waitList.defer name entryPoints pending s.program.isMissing }
  s.note (.reportDeferred name entry.waitingFor.size)

/-- Remembers the entry points of a complete report and the interfaces that it was read from. -/
def finalize (s : Session) (name : String) (entryPoints : List MethodId) (survey : Survey) :
    Session :=
  let readers := survey.findings.interfaces.toList.foldl
    (fun readers m => readers.insert m ((readers.getD m ∅).insert name)) s.readers
  { s with readers, finalized := s.finalized.insert name entryPoints }

/-- Resolves the entry points of the report `name` and enters the verdict into the tables. External
methods weigh more than pending ones. A complete report is still to be handed over. -/
def judge (s : Session) (name : String) (entryPoints : List MethodId) : Session × Verdict :=
  let survey := s.survey name entryPoints
  let found := survey.findings
  let s := s.noteExternal entryPoints
  let s := { s with finalized := s.finalized.erase name }
  if !found.external.isEmpty then
    (s.block name entryPoints found.external, .blocked survey.report found.external)
  else
    let s := { s with blocked := s.blocked.erase name }
    if !found.pending.isEmpty then
      (s.postpone name entryPoints found.pending, .pending survey.report found.pending)
    else
      (s.finalize name entryPoints survey, .finalized survey.report)

/-- Hands a report over that is complete. -/
def handOver (s : Session) : Verdict → Session
  | .finalized report => s.offer report
  | _ => s

/-- Resolves the entry points of the report `name`, and hands the report over if it is complete. -/
def handle (s : Session) (name : String) (entryPoints : List MethodId) : Session × Verdict :=
  let (s, verdict) := s.judge name entryPoints
  (s.handOver verdict, verdict)

end Session

end DataTrail
