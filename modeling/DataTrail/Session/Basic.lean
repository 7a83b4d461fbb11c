import DataTrail.Findings
import DataTrail.WaitList
import DataTrail.Report
import DataTrail.Notice
import DataTrail.Settings

/-! The state of an analysis. Each report is written, deferred or blocked. What is said on the way
goes into a journal. A report can be handed over in the same way; the analysis then touches nothing
outside, and the journal can be performed afterwards. -/

namespace DataTrail

/-- What the resolution of a report's entry points came to. -/
inductive Verdict where
  /-- Everything that is reached is known, and the report was handed over. -/
  | finalized (report : Report)
  /-- Methods of the namespace are missing; the report shows what is known so far. -/
  | pending (part : Report) (waitingFor : MethodSet)
  /-- Methods of other namespaces are missing; the report shows what is known so far. -/
  | blocked (part : Report) (external : MethodSet)

namespace Verdict

/-- The report, complete or not. -/
def report : Verdict → Report
  | finalized report => report
  | pending part _ => part
  | blocked part _ => part

/-- The methods that stand in the way. -/
def missing : Verdict → MethodSet
  | finalized _ => ∅
  | pending _ waitingFor => waitingFor
  | blocked _ external => external

/-- Whether the report is complete. -/
def isFinalized : Verdict → Bool
  | finalized _ => true
  | _ => false

end Verdict

/-- An entry of the journal. -/
inductive Event where
  | notice (notice : Notice)
  /-- A report is handed over to be written. -/
  | offer (report : Report)

/-- The reports that a list of events hands over, in order. -/
def Event.offers (events : List Event) : List Report :=
  events.filterMap fun
    | .offer report => some report
    | .notice _ => none

/-- What a list of events says, in order. -/
def Event.notices (events : List Event) : List Notice :=
  events.filterMap fun
    | .notice n => some n
    | .offer _ => none

/-- Running counts of an analysis. -/
structure Tally where
  unitsSeen : Nat := 0
  unitsSkipped : Nat := 0
  methodsRegistered : Nat := 0
  duplicateRegistrations : Nat := 0
  abstractSkipped : Nat := 0
  retries : Nat := 0
  refreshes : Nat := 0
deriving DecidableEq, Repr

/-- The state of an analysis. -/
structure Session where
  settings : Settings
  program : Program := {}
  waitList : WaitList := .empty
  /-- The reports that reach missing methods of other namespaces, by name. -/
  blocked : Std.ExtTreeMap String Deferred := ∅
  /-- The entry points of the written reports, by name. -/
  finalized : Std.ExtTreeMap String (List MethodId) := ∅
  /-- For each interface method the names of the reports that were written with its implementors. -/
  readers : Std.ExtTreeMap MethodId NameSet := ∅
  tally : Tally := {}
  /-- What happened since the journal was emptied, newest first. -/
  journal : List Event := []

namespace Session

/-- An analysis that has seen nothing. -/
def start (settings : Settings) : Session := { settings }

/-- Puts an event into the journal. -/
def record (s : Session) (e : Event) : Session := { s with journal := e :: s.journal }

/-- Says something. -/
def note (s : Session) (n : Notice) : Session := s.record (.notice n)

/-- Says one thing after the other. -/
def noteAll (s : Session) (ns : List Notice) : Session := ns.foldl note s

/-- Hands a report over to be written. -/
def offer (s : Session) (report : Report) : Session := s.record (.offer report)

/-- The events of the journal, oldest first. -/
def events (s : Session) : List Event := s.journal.reverse

/-- What the journal says, oldest first. -/
def notices (s : Session) : List Notice := Event.notices s.events

/-- Empties the journal. -/
def clearJournal (s : Session) : Session := { s with journal := [] }

end Session

end DataTrail
