import DataTrail.Session.Handle

/-! Taking in one source unit: its methods are registered, its own entry points are resolved,
deferred reports are tried again that the new methods have released, and written reports are written
again if an interface that they were read from has a new implementor. -/

namespace DataTrail

/-- What happened while a unit was taken in. -/
structure Outcome where
  skipped : Bool := false
  registered : Nat := 0
  duplicates : Nat := 0
  /-- The verdict on the unit's own entry points, if it declares any. -/
  verdict : Option Verdict := none
  /-- The deferred reports that were tried again, in the order of their names. -/
  retried : List (String × Verdict) := []
  /-- The written reports that were resolved again, in the order of their names. -/
  refreshed : List (String × Verdict) := []

/-- What the registration of a unit's methods came to. -/
structure Registration where
  registered : Nat := 0
  duplicates : Nat := 0
  /-- The methods that are no longer missing: the new ones, each after the interface methods that it
  implements. -/
  announced : List MethodId := []
  /-- The interface methods with a new implementor. -/
  widened : MethodSet := ∅

namespace Session

/-- Registers one method, unless it has no body or is registered already. -/
def registerMethod : Session × Registration → Facts → Session × Registration
  | (s, done), f =>
    if f.isAbstract then
      ({ s with tally.abstractSkipped := s.tally.abstractSkipped + 1 }, done)
    else
      let s := s.noteAll (f.error.map (.extractionFailed f.method)).toList
      if s.program.registry.contains f.method then
        let s := s.note (.alreadyRegistered f.method)
        ({ s with tally.duplicateRegistrations := s.tally.duplicateRegistrations + 1 },
          { done with duplicates := done.duplicates + 1 })
      else
        let widened := f.implements.filter fun m => !s.program.dispatch.lists m f.method
        ({ s with
            program := s.program.register f
            tally.methodsRegistered := s.tally.methodsRegistered + 1 },
          { done with
            registered := done.registered + 1
            announced := done.announced ++ f.implements ++ [f.method]
            widened := done.widened ∪ .ofList widened })

/-- Registers the methods of a unit, in order. -/
def registerUnit (s : Session) (u : SourceUnit) : Session × Registration :=
  let (s, done) := u.methods.foldl registerMethod (s, {})
  (s.note (.unitRegistered u.name done.registered done.duplicates), done)

/-- Resolves a unit's own entry points, if it declares any. -/
def handleUnit (s : Session) (u : SourceUnit) : Session × Option Verdict :=
  match u.entryPoints with
  | [] => (s, none)
  | entryPoints =>
    let (s, verdict) := s.handle u.name entryPoints
    (s, some verdict)

/-- Takes the entries off the wait-list that have nothing left to wait for once `announced` are
known, and lists them in the order of their names. -/
def release (s : Session) (announced : List MethodId) : Session × List Deferred :=
  let (waitList, released) := s.waitList.releaseEach announced
  let s := { s with waitList }
  (s.noteAll (released.map fun r => .reportUnblocked r.entry.name r.unblockedBy),
    WaitList.inNameOrder released)

/-- Says that a deferred report is tried again, and counts it. -/
def beginRetry (s : Session) (name : String) : Session :=
  let s := s.note (.retrying name)
  { s with tally.retries := s.tally.retries + 1 }

/-- Tries one deferred report again. -/
def retry : Session × List (String × Verdict) → Deferred → Session × List (String × Verdict)
  | (s, retried), entry =>
    let (s, verdict) := (s.beginRetry entry.name).handle entry.name entry.entryPoints
    (s, retried ++ [(entry.name, verdict)])

/-- Tries the reports again that `announced` have released. -/
def retryReleased (s : Session) (announced : List MethodId) :
    Session × List (String × Verdict) :=
  let (s, released) := s.release announced
  released.foldl retry (s, [])

/-- The names of the reports that were read from one of the interfaces, `settled` left out. -/
def readersOf (s : Session) (interfaces : MethodSet) (settled : List String) : NameSet :=
  .ofList ((interfaces.toList.flatMap fun m => (s.readers.getD m ∅).toList).filter
    (!settled.contains ·))

/-- Says that a written report is resolved again, and counts it. -/
def beginRefresh (s : Session) (name : String) : Session :=
  let s := s.note (.refreshing name)
  { s with tally.refreshes := s.tally.refreshes + 1 }

/-- Resolves one report again, if it is written. -/
def refresh : Session × List (String × Verdict) → String → Session × List (String × Verdict)
  | (s, refreshed), name =>
    match s.finalized[name]? with
    | none => (s, refreshed)
    | some entryPoints =>
      let (s, verdict) := (s.beginRefresh name).handle name entryPoints
      (s, refreshed ++ [(name, verdict)])

/-- The names of the reports that were resolved while a unit was taken in. -/
def resolvedNames (u : SourceUnit) (verdict : Option Verdict) (retried : List (String × Verdict)) :
    List String :=
  (if verdict.isSome then [u.name] else []) ++ retried.map (·.1)

/-- Takes in a unit that is not left out. -/
def absorbUnit (s : Session) (u : SourceUnit) : Session × Outcome :=
  let (s, done) := s.registerUnit u
  let (s, verdict) := s.handleUnit u
  let (s, retried) := s.retryReleased done.announced
  let stale := s.readersOf done.widened (resolvedNames u verdict retried)
  let (s, refreshed) := stale.toList.foldl refresh (s, [])
  (s, { registered := done.registered, duplicates := done.duplicates, verdict, retried, refreshed })

/-- Counts a unit. -/
def countUnit (s : Session) : Session := { s with tally.unitsSeen := s.tally.unitsSeen + 1 }

/-- Leaves a unit out. -/
def skipUnit (s : Session) (u : SourceUnit) : Session :=
  let s := s.note (.unitSkipped u.name)
  { s with tally.unitsSkipped := s.tally.unitsSkipped + 1 }

/-- Takes in one unit. -/
def ingest (s : Session) (u : SourceUnit) : Session × Outcome :=
  if s.settings.skipsUnit u.name then (s.countUnit.skipUnit u, { skipped := true })
  else s.countUnit.absorbUnit u

end Session

end DataTrail
