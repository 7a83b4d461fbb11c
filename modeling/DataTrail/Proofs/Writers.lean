import Mathlib.Data.List.Basic
import DataTrail.Proofs.Wakeup

/-! What a writer can change about a run. In any monad, a run is the same as writing the reports that
the analysis hands over, in their order, and then counting how many of the writes succeeded. So two
writers that fail on different reports see the same reports, and the analysis goes the same way. -/

namespace DataTrail

/-- What is said to a request. It leaves out how many partial reports were written in the end. -/
inductive Answer where
  | outcome (outcome : Outcome)
  | verdict (verdict : Verdict)
  | leftovers (leftovers : Leftovers)

namespace Session

def reply (s : Session) : Request → Answer
  | .ingest unit => .outcome (s.ingest unit).2
  | .handle name entryPoints => .verdict (s.handle name entryPoints).2
  | .finish => .leftovers s.finish.2

/-- What is said to requests that come one after the other. -/
def replies (s : Session) : List Request → List Answer
  | [] => []
  | request :: rest => s.reply request :: (s.serve request).replies rest

/-- The reports that are handed over for requests that come one after the other. -/
def offers (s : Session) : List Request → List Report
  | [] => []
  | request :: rest => (s.answer request).offered ++ (s.serve request).offers rest

theorem replies_append (s : Session) (requests later : List Request) :
    s.replies (requests ++ later) =
      s.replies requests ++ (requests.foldl serve s).replies later := by
  induction requests generalizing s with
  | nil => rfl
  | cons first rest ih => simp only [List.cons_append, replies, ih, List.foldl_cons]

theorem offers_append (s : Session) (requests later : List Request) :
    s.offers (requests ++ later) =
      s.offers requests ++ (requests.foldl serve s).offers later := by
  induction requests generalizing s with
  | nil => rfl
  | cons first rest ih =>
    simp only [List.cons_append, offers, ih, List.foldl_cons, List.append_assoc]

theorem replies_ingests (s : Session) (units : List SourceUnit) :
    s.replies (units.map .ingest) = (s.outcomes units).map .outcome := by
  induction units generalizing s with
  | nil => rfl
  | cons u rest ih => simp only [List.map_cons, replies, reply, outcomes, ih]

end Session

/-- Notes each report before it is written. -/
def Writer.logged {σ : Type} (write : Writer (StateM σ)) : Writer (StateM (σ × List Report)) :=
  fun report (state, log) =>
    let (result, state) := (write report).run state
    (result, (state, log ++ [report]))

namespace Recorder

variable {m : Type → Type} [Monad m] (write : Writer m)

/-- The recorder after a request, and what it says. -/
def respond (r : Recorder) : Request → m (Recorder × Answer)
  | .ingest unit => do
    let (r, outcome, _) ← r.ingest write unit
    return (r, .outcome outcome)
  | .handle name entryPoints => do
    let (r, verdict, _) ← r.handle write name entryPoints
    return (r, .verdict verdict)
  | .finish => do
    let (r, summary, _) ← r.finish write
    return (r, .leftovers summary.leftovers)

/-- The recorder after a list of requests, and what it says to each of them. -/
def respondAll (r : Recorder) : List Request → m (Recorder × List Answer)
  | [] => return (r, [])
  | request :: rest => do
    let (r, first) ← r.respond write request
    let (r, others) ← r.respondAll rest
    return (r, first :: others)

/-- The recorder goes on with `s` after writes with the given results. -/
def advance (r : Recorder) (s : Session) (results : List (Except String Unit)) : Recorder where
  session := s
  reportsWritten := r.reportsWritten + results.countP (·.isOk)
  writeFailures := r.writeFailures + results.countP (!·.isOk)

theorem advance_advance (r : Recorder) (s s' : Session) (results results' : List (Except String Unit)) :
    (r.advance s results).advance s' results' = r.advance s' (results ++ results') := by
  simp only [advance, List.countP_append, Nat.add_assoc]

/-- Every write is counted once. -/
theorem writes_advance (r : Recorder) (s : Session) (results : List (Except String Unit)) :
    (r.advance s results).reportsWritten + (r.advance s results).writeFailures =
      r.reportsWritten + r.writeFailures + results.length := by
  have split := List.length_eq_countP_add_countP (·.isOk) (l := results)
  simp only [advance, Bool.not_eq_true, Bool.decide_eq_false] at split ⊢
  omega

section Lawful

variable [LawfulMonad m]

/-- Of the events, the writer sees the reports alone, and their results alone count. -/
theorem counts_foldlM_add (events : List Event) (done : Performed) :
    (fun d : Performed => (d.written, d.failed)) <$> events.foldlM (Performed.add write) done =
      (fun results : List (Except String Unit) =>
        (done.written + results.countP (·.isOk), done.failed + results.countP (!·.isOk))) <$>
        (Event.offers events).mapM write := by
  induction events generalizing done with
  | nil => simp [Event.offers]
  | cons event rest ih =>
    cases event with
    | notice n =>
      rw [List.foldlM_cons, Performed.add, pure_bind, ih]
      rfl
    | offer report =>
      have reports : Event.offers (.offer report :: rest) = report :: Event.offers rest := rfl
      rw [List.foldlM_cons, Performed.add, reports, List.mapM_cons, bind_map_left, map_bind, map_bind]
      refine bind_congr fun result => ?_
      -- A success and a failure are counted in the same way, each in its own place.
      cases result
      all_goals
        simp only [ih, Performed.tell, map_bind, map_pure]
        rw [map_eq_pure_bind]
        refine bind_congr fun results => ?_
        simp [Except.isOk, Except.toBool, Nat.add_assoc, Nat.add_comm]

theorem map_perform {γ : Type} (r : Recorder) (s : Session) (f : Recorder → γ) :
    (fun done : Recorder × Performed => f done.1) <$> r.perform write s =
      (fun results => f (r.advance s.clearJournal results)) <$> s.offered.mapM write := by
  have counts := congrArg (Functor.map fun n : Nat × Nat =>
    f ⟨s.clearJournal, r.reportsWritten + n.1, r.writeFailures + n.2⟩)
    (counts_foldlM_add write s.events {})
  simp only [Functor.map_map, Nat.zero_add] at counts
  rw [perform, map_bind]
  simp only [map_pure, bind_pure_comp]
  exact counts

/-- The writer decides on the counts of a request and on nothing else. -/
theorem respond_eq {r : Recorder} (fresh : r.session.journal = []) (request : Request) :
    r.respond write request =
      (fun results => (r.advance (r.session.serve request) results, r.session.reply request)) <$>
        (r.session.answer request).offered.mapM write := by
  rw [Session.serve, ← map_perform write r (r.session.answer request)
    fun r' => (r', r.session.reply request)]
  cases request <;>
    simp only [respond, ingest_eq fresh, handle_eq fresh, finish_eq fresh, bind_pure_comp,
      Functor.map_map] <;>
    rfl

theorem respondAll_eq {r : Recorder} (fresh : r.session.journal = []) (requests : List Request) :
    r.respondAll write requests =
      (fun results => (r.advance (requests.foldl Session.serve r.session) results,
        r.session.replies requests)) <$> (r.session.offers requests).mapM write := by
  induction requests generalizing r with
  | nil => simp [respondAll, advance, Session.replies, Session.offers]
  | cons request rest ih =>
    have next (results : List (Except String Unit)) :=
      ih (r := r.advance (r.session.serve request) results) rfl
    simp only [respondAll, respond_eq write fresh, next, Session.offers, List.mapM_append, map_bind,
      map_pure, bind_map_left]
    refine bind_congr fun results => ?_
    simp only [bind_pure_comp, advance_advance]
    rfl

end Lawful

section Stateful

variable {σ τ : Type}

theorem run_mapM_cons (write : Writer (StateM σ)) (report : Report) (rest : List Report) (a : σ) :
    ((report :: rest).mapM write).run a =
      let first := (write report).run a
      let others := (rest.mapM write).run first.2
      (first.1 :: others.1, others.2) := by
  rw [List.mapM_cons]
  rfl

/-- Noting the reports changes neither what the writer does nor what it answers. -/
theorem run_mapM_logged (write : Writer (StateM σ)) (reports : List Report) (a : σ)
    (log : List Report) :
    (reports.mapM write.logged).run (a, log) =
      (((reports.mapM write).run a).1, (((reports.mapM write).run a).2, log ++ reports)) := by
  induction reports generalizing a log with
  | nil => simp only [List.mapM_nil, List.append_nil]; rfl
  | cons report rest ih =>
    have noted : (write.logged report).run (a, log) =
      (((write report).run a).1, (((write report).run a).2, log ++ [report])) := rfl
    simp only [run_mapM_cons, noted, ih, List.append_assoc, List.singleton_append]

theorem length_run_mapM (write : Writer (StateM σ)) (reports : List Report) (a : σ) :
    ((reports.mapM write).run a).1.length = reports.length := by
  induction reports generalizing a with
  | nil => rfl
  | cons report rest ih => simp only [run_mapM_cons, List.length_cons, ih]

theorem run_mapM_keepReport (reports kept : List Report) :
    (reports.mapM keepReport).run kept = (reports.map fun _ => .ok (), kept ++ reports) := by
  induction reports generalizing kept with
  | nil => simp only [List.mapM_nil, List.map_nil, List.append_nil]; rfl
  | cons report rest ih =>
    have first : (keepReport report).run kept = (.ok (), kept ++ [report]) := rfl
    simp only [run_mapM_cons, first, ih, List.map_cons, List.append_assoc, List.singleton_append]

/-- A new recorder answers and hands over what the analysis does. -/
theorem run_respondAll (write : Writer (StateM σ)) (settings : Settings) (requests : List Request)
    (a : σ) :
    ((start settings).respondAll write requests).run a =
      let writes := (((Session.start settings).offers requests).mapM write).run a
      (((start settings).advance (.after settings requests) writes.1,
        (Session.start settings).replies requests), writes.2) := by
  have fresh : (start settings).session.journal = [] := rfl
  rw [respondAll_eq write fresh]
  rfl

theorem run_respondAll_logged (write : Writer (StateM σ)) (settings : Settings)
    (requests : List Request) (a : σ) (log : List Report) :
    ((start settings).respondAll write.logged requests).run (a, log) =
      let run := ((start settings).respondAll write requests).run a
      (run.1, (run.2, log ++ (Session.start settings).offers requests)) := by
  simp only [run_respondAll, run_mapM_logged]

theorem writes_respondAll (write : Writer (StateM σ)) (settings : Settings)
    (requests : List Request) (a : σ) :
    let r := ((start settings).respondAll write requests).run a |>.1.1
    r.reportsWritten + r.writeFailures = ((Session.start settings).offers requests).length := by
  simp only [run_respondAll, writes_advance, length_run_mapM]
  exact Nat.zero_add _

/-- Two writers, each with a state of its own, see the same reports, and the two runs differ in how
often a write succeeded and in nothing else. -/
theorem runs_agree_for_all_writers (settings : Settings) (requests : List Request)
    (write : Writer (StateM σ)) (write' : Writer (StateM τ)) (a : σ) (b : τ) :
    let run := ((start settings).respondAll write requests).run a
    let run' := ((start settings).respondAll write' requests).run b
    let logged := ((start settings).respondAll write.logged requests).run (a, [])
    let logged' := ((start settings).respondAll write'.logged requests).run (b, [])
    run.1.2 = run'.1.2 ∧
      run.1.1.session = run'.1.1.session ∧
      logged.1 = run.1 ∧ logged'.1 = run'.1 ∧
      logged.2.2 = logged'.2.2 ∧
      run.1.1.reportsWritten + run.1.1.writeFailures =
        run'.1.1.reportsWritten + run'.1.1.writeFailures ∧
      run.1.1.reportsWritten + run.1.1.writeFailures = logged.2.2.length := by
  intro run run' logged logged'
  have notes : logged = (run.1, (run.2, (Session.start settings).offers requests)) :=
    run_respondAll_logged write settings requests a []
  have notes' : logged' = (run'.1, (run'.2, (Session.start settings).offers requests)) :=
    run_respondAll_logged write' settings requests b []
  have writes := writes_respondAll write settings requests a
  have writes' := writes_respondAll write' settings requests b
  rw [notes, notes']
  refine ⟨?_, ?_, rfl, rfl, rfl, writes.trans writes'.symm, writes⟩
  · simp only [run, run', run_respondAll]
  · simp only [run, run', run_respondAll, advance]

end Stateful

end Recorder

open Sample in
set_option maxRecDepth 10000 in
/-- A page is written once its store is a disk, and again when the store is a cloud too. The second
write comes of the first one also where both are refused. -/
theorem Recorder.runs_agree_for_all_writers_refused :
    let refuse : Writer (StateM Unit) := fun _ => return .error "no space left"
    let requests : List Request := [.ingest (caller "Page" (method "Store" "load")),
      .ingest (implementor "Disk" "Phone" (method "Store" "load")),
      .ingest (implementor "Cloud" "Email" (method "Store" "load")), .finish]
    let run := ((start {}).respondAll refuse requests).run ()
    let run' := ((start {}).respondAll keepReport requests).run []
    let logged := ((start {}).respondAll refuse.logged requests).run ((), [])
    let logged' := ((start {}).respondAll keepReport.logged requests).run ([], [])
    run.1.2 = run'.1.2 ∧ run.1.1.session = run'.1.1.session ∧ logged.2.2 = logged'.2.2 ∧
      logged.2.2.map (·.data) = [["Phone"], ["Email", "Phone"]] ∧
      run.1.1.session.finalized["Page"]? = some [method "Page" "show"] ∧
      (run.1.1.reportsWritten, run.1.1.writeFailures) = (0, 2) ∧
      (run'.1.1.reportsWritten, run'.1.1.writeFailures) = (2, 0) := by
  intro refuse requests run run' logged logged'
  have found : logged.2.2.map (·.data) = [["Phone"], ["Email", "Phone"]] ∧
      run.1.1.session.finalized["Page"]? = some [method "Page" "show"] ∧
      (run.1.1.reportsWritten, run.1.1.writeFailures) = (0, 2) ∧
      (run'.1.1.reportsWritten, run'.1.1.writeFailures) = (2, 0) := by decide +kernel
  obtain ⟨answers, session, -, -, reports, -, -⟩ :=
    runs_agree_for_all_writers {} requests refuse keepReport () []
  simp only [run, run', logged, logged'] at found ⊢
  exact ⟨answers, session, reports, found⟩

end DataTrail
