import Mathlib.Data.List.Induction
import DataTrail.Proofs.Simulation

/-! Runs of an analysis: what it is asked to do, one request after the other, and what it has become
and has kept of its reports after them. -/

namespace DataTrail

/-- What an analysis can be asked to do. -/
inductive Request where
  | ingest (unit : SourceUnit)
  | handle (name : String) (entryPoints : List MethodId)
  | finish

namespace Session

/-- The reports that the journal hands over, oldest first. -/
def offered (s : Session) : List Report := Event.offers s.events

/-- The analysis after a request, with the journal of it. -/
def answer (s : Session) : Request → Session
  | .ingest unit => (s.ingest unit).1
  | .handle name entryPoints => (s.handle name entryPoints).1
  | .finish => s.finish.1

/-- The analysis after a request whose journal was performed. -/
def serve (s : Session) (request : Request) : Session := (s.answer request).clearJournal

/-- A new analysis after a list of requests. -/
def after (settings : Settings) (requests : List Request) : Session :=
  requests.foldl serve (.start settings)

/-- The outcomes of units that are taken in one after the other. -/
def outcomes (s : Session) : List SourceUnit → List Outcome
  | [] => []
  | u :: rest => (s.ingest u).2 :: (s.serve (.ingest u)).outcomes rest

theorem after_append (settings : Settings) (requests : List Request) (request : Request) :
    after settings (requests ++ [request]) = (after settings requests).serve request := by
  simp [after]

theorem offered_after (settings : Settings) (requests : List Request) :
    (after settings requests).offered = [] := by
  rcases List.eq_nil_or_concat requests with rfl | ⟨init, request, rfl⟩
  · rfl
  · rw [List.concat_eq_append, after_append]
    rfl

end Session

namespace Recorder

/-- The recorder after a request. -/
def serve {m : Type → Type} [Monad m] (write : Writer m) (r : Recorder) : Request → m Recorder
  | .ingest unit => (·.1) <$> r.ingest write unit
  | .handle name entryPoints => (·.1) <$> r.handle write name entryPoints
  | .finish => (·.1) <$> r.finish write

/-- A new recorder after a list of requests, and the reports that it has kept. -/
def recorded (settings : Settings) (requests : List Request) : Recorder × List Report :=
  (requests.foldlM (serve keepReport) (start settings)).run []

theorem kept_foldlM_add (events : List Event) (done : Performed) (kept : List Report) :
    ((events.foldlM (Performed.add keepReport) done).run kept).2 = kept ++ Event.offers events := by
  induction events generalizing done kept with
  | nil => exact (List.append_nil kept).symm
  | cons event rest ih =>
    cases event with
    | notice n =>
      rw [List.foldlM_cons, Performed.add, pure_bind, ih]
      rfl
    | offer report =>
      simp only [List.foldlM_cons, Performed.add, keepReport]
      simp [ih, Event.offers]

/-- Performing the journal of `s` empties it and keeps the reports that it hands over. -/
theorem run_perform (r : Recorder) (s : Session) (kept : List Report) :
    ∃ r' done, (r.perform keepReport s).run kept = ((r', done), kept ++ s.offered) ∧
      r'.session = s.clearJournal := by
  let done := ((s.events.foldlM (Performed.add keepReport) {}).run kept).1
  refine ⟨(r.during s done).flush.1, done, ?_, rfl⟩
  rw [Session.offered, ← kept_foldlM_add s.events {} kept]
  rfl

theorem run_handle {r : Recorder} (fresh : r.session.journal = []) (name : String)
    (eps : List MethodId) (kept : List Report) :
    ∃ r' notices, (r.handle keepReport name eps).run kept =
        ((r', (r.session.handle name eps).2, notices),
          kept ++ (r.session.handle name eps).1.offered) ∧
      r'.session = (r.session.handle name eps).1.clearJournal := by
  obtain ⟨r', done, run, session⟩ := run_perform r (r.session.handle name eps).1 kept
  refine ⟨r', done.notices, ?_, session⟩
  rw [handle_eq fresh, StateT.run_map, run]
  rfl

theorem run_serve {r : Recorder} (fresh : r.session.journal = []) (request : Request)
    (kept : List Report) :
    ∃ r', (r.serve keepReport request).run kept =
        (r', kept ++ (r.session.answer request).offered) ∧
      r'.session = r.session.serve request := by
  obtain ⟨r', done, run, session⟩ := run_perform r (r.session.answer request) kept
  refine ⟨r', ?_, session⟩
  cases request <;>
    simp only [Session.answer] at run <;>
    simp only [serve, ingest_eq fresh, handle_eq fresh, finish_eq fresh, StateT.run_map, run] <;>
    rfl

theorem recorded_concat (settings : Settings) (requests : List Request) (request : Request) :
    recorded settings (requests ++ [request]) =
      ((recorded settings requests).1.serve keepReport request).run (recorded settings requests).2 := by
  simp only [recorded, List.foldlM_append, List.foldlM_cons, List.foldlM_nil, bind_pure,
    StateT.run_bind]
  rfl

/-- Between two requests the journal is empty. -/
theorem fresh_recorded (settings : Settings) (requests : List Request) :
    (recorded settings requests).1.session.journal = [] := by
  induction requests using List.reverseRecOn with
  | nil => rfl
  | append_singleton requests request ih =>
    obtain ⟨r', run, session⟩ := run_serve ih request (recorded settings requests).2
    rw [recorded_concat, run, session]
    rfl

theorem recorded_append (settings : Settings) (requests : List Request) (request : Request) :
    (recorded settings (requests ++ [request])).1.session =
        (recorded settings requests).1.session.serve request ∧
      (recorded settings (requests ++ [request])).2 =
        (recorded settings requests).2 ++
          ((recorded settings requests).1.session.answer request).offered := by
  obtain ⟨r', run, session⟩ :=
    run_serve (fresh_recorded settings requests) request (recorded settings requests).2
  rw [recorded_concat, run]
  exact ⟨session, rfl⟩

/-- What an analysis becomes does not depend on the keeping of its reports. -/
theorem session_recorded (settings : Settings) (requests : List Request) :
    (recorded settings requests).1.session = .after settings requests := by
  induction requests using List.reverseRecOn with
  | nil => rfl
  | append_singleton requests request ih =>
    rw [(recorded_append settings requests request).1, ih, Session.after_append]

end Recorder

end DataTrail
