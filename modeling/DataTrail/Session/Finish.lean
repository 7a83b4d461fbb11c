import DataTrail.Session.Handle

/-! The end of an analysis: what still waits or is blocked is named and let go, and written as far
as it goes if the settings ask for it. -/

namespace DataTrail

/-- The reports that an analysis leaves unwritten, each part in the order of the names. -/
structure Leftovers where
  unresolved : List Deferred
  external : List Deferred

namespace Session

/-- Lets all reports go that are not written. -/
def letGo (s : Session) : Session × Leftovers :=
  let (waitList, unresolved) := s.waitList.drain
  ({ s with waitList, blocked := ∅ }, ⟨unresolved, s.blocked.values⟩)

/-- Names one unwritten report. The second part is what is known of it, if the settings ask for
that. -/
def nameUnwritten (notice : String → List MethodId → Notice) (s : Session) (entry : Deferred) :
    Session × Option Report :=
  let s := s.note (notice entry.name entry.waitingFor.toList)
  if s.settings.emitPartialOnFinish then
    (s.noteExternal entry.entryPoints, some (s.survey entry.name entry.entryPoints).report)
  else (s, none)

/-- Names one unwritten report, and hands over what is known of it if the settings ask for it. -/
def close (notice : String → List MethodId → Notice) (s : Session) (entry : Deferred) : Session :=
  let (s, part) := s.nameUnwritten notice entry
  match part with
  | none => s
  | some report => s.offer report

/-- Ends the analysis. -/
def finish (s : Session) : Session × Leftovers :=
  let (s, left) := s.letGo
  let s := left.unresolved.foldl (close .neverResolved) s
  let s := left.external.foldl (close .blockedOutside) s
  (s, left)

end Session

end DataTrail
