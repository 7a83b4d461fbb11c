import DataTrail.Recorder

/-! A recorder writes in the middle of its work, and what comes of a write goes into the recorder
before the work goes on. The same work can be done on the analysis alone, which hands its reports over
to the journal, and the journal performed afterwards: in every monad the two come to the same. -/

namespace DataTrail

variable {m : Type → Type} [Monad m] {α β : Type}

/-- What came of a list of events. -/
structure Performed where
  written : Nat := 0
  failed : Nat := 0
  /-- What there is to say, in order. -/
  notices : List Notice := []

/-- A report was given to the writer. -/
def Performed.tell (done : Performed) (report : Report) : Except String Unit → Performed
  | .ok () => { done with written := done.written + 1 }
  | .error error =>
    { done with
      failed := done.failed + 1
      notices := done.notices ++ [.writeFailed report.name error] }

/-- Performs one event. -/
def Performed.add (write : Writer m) (done : Performed) : Event → m Performed
  | .notice n => return { done with notices := done.notices ++ [n] }
  | .offer report => done.tell report <$> write report

namespace Session

theorem noteAll_eq (s : Session) (notices : List Notice) :
    s.noteAll notices = { s with journal := notices.reverse.map .notice ++ s.journal } := by
  induction notices generalizing s with
  | nil => rfl
  | cons n rest ih =>
    rw [noteAll, List.foldl_cons, ← noteAll, ih]
    simp [note, record]

/-- The same tables with another journal. -/
def withJournal (s : Session) (journal : List Event) : Session := { s with journal }

/-- From the tables of `s`, whatever the journal, `f` does the same and adds the events, newest
first. -/
def Adds (f : Session → Session × α) (s : Session) (events : List Event) : Prop :=
  ∀ journal, f (s.withJournal journal) = ((f s).1.withJournal (events ++ journal), (f s).2)

/-- To the journal, `f` adds notices only. -/
def OnlyNotes (f : Session → Session × α) : Prop :=
  ∀ s, ∃ notices : List Notice, Adds f s (notices.map .notice)

theorem OnlyNotes.bind {f : Session → Session × α} {g : α → Session → Session × β}
    (hf : OnlyNotes f) (hg : ∀ a, OnlyNotes (g a)) : OnlyNotes fun s => g (f s).2 (f s).1 := by
  intro s
  obtain ⟨notices, first⟩ := hf s
  obtain ⟨later, second⟩ := hg (f s).2 (f s).1
  refine ⟨later ++ notices, fun journal => ?_⟩
  simp only [first journal, second _, List.map_append, List.append_assoc]

theorem onlyNotes_judge (name : String) (eps : List MethodId) : OnlyNotes (·.judge name eps) := by
  intro s
  simp only [Adds, judge, survey, noteExternal, noteAll_eq, block, postpone, finalize, note, record,
    withJournal]
  split
  · exact ⟨_ :: _, fun journal => rfl⟩
  · split
    · exact ⟨_ :: _, fun journal => rfl⟩
    · exact ⟨_, fun journal => rfl⟩

theorem onlyNotes_registerMethod (done : Registration) (f : Facts) :
    OnlyNotes fun s => registerMethod (s, done) f := by
  intro s
  simp only [Adds, registerMethod, noteAll_eq, note, record, withJournal]
  split
  · exact ⟨[], fun journal => rfl⟩
  · split
    · exact ⟨_ :: _, fun journal => rfl⟩
    · exact ⟨_, fun journal => rfl⟩

theorem onlyNotes_registerUnit (u : SourceUnit) : OnlyNotes (·.registerUnit u) := by
  have all (fs : List Facts) (done : Registration) :
      OnlyNotes fun s => fs.foldl registerMethod (s, done) := by
    induction fs generalizing done with
    | nil => exact fun s => ⟨[], fun journal => rfl⟩
    | cons f rest ih => exact (onlyNotes_registerMethod done f).bind ih
  have said (done : Registration) : OnlyNotes fun s =>
      (s.note (.unitRegistered u.name done.registered done.duplicates), done) :=
    fun s => ⟨[_], fun journal => rfl⟩
  exact (all u.methods {}).bind said

theorem onlyNotes_release (announced : List MethodId) : OnlyNotes (·.release announced) := by
  intro s
  simp only [Adds, release, noteAll_eq, withJournal]
  exact ⟨_, fun journal => rfl⟩

theorem onlyNotes_nameUnwritten (notice : String → List MethodId → Notice) (entry : Deferred) :
    OnlyNotes (·.nameUnwritten notice entry) := by
  have named : OnlyNotes fun s =>
      (s.note (notice entry.name entry.waitingFor.toList), s.settings.emitPartialOnFinish) :=
    fun s => ⟨[_], fun journal => rfl⟩
  have known (asked : Bool) : OnlyNotes fun s =>
      if asked then
        (s.noteExternal entry.entryPoints, some (s.survey entry.name entry.entryPoints).report)
      else (s, none) := by
    intro s
    cases asked with
    | false => exact ⟨[], fun journal => rfl⟩
    | true =>
      simp only [Adds, noteExternal, noteAll_eq, withJournal, if_true]
      exact ⟨_, fun journal => rfl⟩
  exact named.bind known

end Session

namespace Recorder

variable (write : Writer m)

/-- The recorder in the middle of a request to `r`: its analysis has come to `s`, and `done` is what
came of the events on the way. -/
def during (r : Recorder) (s : Session) (done : Performed) : Recorder where
  session := s.withJournal (done.notices.reverse.map .notice)
  reportsWritten := r.reportsWritten + done.written
  writeFailures := r.writeFailures + done.failed

/-- Performs what the journal of `s` holds and goes on with `s`. -/
def perform (r : Recorder) (s : Session) : m (Recorder × Performed) := do
  let done ← s.events.foldlM (Performed.add write) {}
  return ((r.during s done).flush.1, done)

/-- `F` does in a recorder what `f` does in its analysis. There are events such that `f` adds them to
the journal, and `F` performs them. -/
def Follows (f : Session → Session × α) (F : Recorder → m (Recorder × α)) : Prop :=
  ∀ s, ∃ events : List Event,
    Session.Adds f s events.reverse ∧
    ∀ (r : Recorder) (done : Performed), F (r.during s done) =
      (fun done => (r.during (f s).1 done, (f s).2)) <$> events.foldlM (Performed.add write) done

section Lawful

variable [LawfulMonad m] {f : Session → Session × α} {F : Recorder → m (Recorder × α)}

theorem foldlM_notices (notices : List Notice) (done : Performed) :
    (notices.map Event.notice).foldlM (Performed.add write) done =
      pure { done with notices := done.notices ++ notices } := by
  induction notices generalizing done with
  | nil => simp
  | cons n rest ih => simp [Performed.add, ih]

theorem foldlM_offer (report : Report) (done : Performed) :
    [Event.offer report].foldlM (Performed.add write) done = done.tell report <$> write report := by
  simp [Performed.add]

variable {write}

/-- In the middle of a request, what only notes adds to what there is to say. -/
theorem during_noted {s : Session} {notices : List Notice}
    (notes : Session.Adds f s (notices.map .notice)) (r : Recorder) (done : Performed) :
    ({ r.during s done with session := (f (r.during s done).session).1 } : Recorder) =
        r.during (f s).1 { done with notices := done.notices ++ notices.reverse } ∧
      (f (r.during s done).session).2 = (f s).2 := by
  simp only [during, notes _, List.reverse_append, List.reverse_reverse, List.map_append, and_self]

/-- What only notes is done in a recorder as it is in an analysis. -/
theorem Follows.of_onlyNotes (h : Session.OnlyNotes f) :
    Follows write f fun r => pure ({ r with session := (f r.session).1 }, (f r.session).2) := by
  intro s
  obtain ⟨notices, notes⟩ := h s
  refine ⟨notices.reverse.map .notice, ?_, fun r done => ?_⟩
  · rwa [← List.map_reverse, List.reverse_reverse]
  · rw [foldlM_notices, map_pure]
    obtain ⟨noted, same⟩ := during_noted notes r done
    simp only [noted, same]

theorem Follows.bind {g : α → Session → Session × β} {G : α → Recorder → m (Recorder × β)}
    (hf : Follows write f F) (hg : ∀ a, Follows write (g a) (G a)) :
    Follows write (fun s => g (f s).2 (f s).1) fun r => F r >>= fun (r, a) => G a r := by
  intro s
  obtain ⟨events, first, run⟩ := hf s
  obtain ⟨later, second, runs⟩ := hg (f s).2 (f s).1
  refine ⟨events ++ later, fun journal => ?_, fun r done => ?_⟩
  · simp only [first journal, second _, List.reverse_append, List.append_assoc]
  · simp only [run, List.foldlM_append, map_bind, bind_map_left]
    exact bind_congr fun done => runs r done

theorem Follows.foldl {f : Session × α → β → Session × α}
    {F : Recorder × α → β → m (Recorder × α)}
    (step : ∀ a x, Follows write (fun s => f (s, a) x) fun r => F (r, a) x) (xs : List β) (a : α) :
    Follows write (fun s => xs.foldl f (s, a)) fun r => xs.foldlM F (r, a) := by
  induction xs generalizing a with
  | nil => exact .of_onlyNotes fun s => ⟨[], fun journal => rfl⟩
  | cons x rest ih =>
    simp only [List.foldlM_cons]
    exact (step a x).bind ih

theorem emit_during (r : Recorder) (s : Session) (done : Performed) (report : Report) :
    (r.during s done).emit write report =
      (fun result => (r.during s (done.tell report result), result.isOk)) <$> write report := by
  rw [emit, map_eq_pure_bind]
  refine bind_congr fun result => ?_
  cases result <;>
    simp [during, Performed.tell, Session.note, Session.record, Session.withJournal, Except.isOk,
      Except.toBool, Nat.add_assoc]

theorem Follows.pure (a : α) : Follows write (fun s => (s, a)) fun r => Pure.pure (r, a) :=
  .of_onlyNotes fun _ => ⟨[], fun _ => rfl⟩

/-- Steps that only note can come first. -/
theorem Follows.after_notes {g : α → Session → Session × β} {G : α → Recorder → m (Recorder × β)}
    (h : Session.OnlyNotes f) (hg : ∀ a, Follows write (g a) (G a)) :
    Follows write (fun s => g (f s).2 (f s).1)
      fun r => G (f r.session).2 { r with session := (f r.session).1 } := by
  have both := (of_onlyNotes h).bind hg
  simp only [pure_bind] at both
  exact both

variable (write)

/-- What is handed over to the journal is written at once. -/
theorem follows_deliver (verdict : Verdict) :
    Follows write (fun s => (s.handOver verdict, verdict))
      fun r => r.deliver write verdict >>= fun r => pure (r, verdict) := by
  cases verdict with
  | finalized report =>
    refine fun s => ⟨[.offer report], fun journal => rfl, fun r done => ?_⟩
    simp only [deliver, emit_during, foldlM_offer, bind_pure_comp, Functor.map_map]
    rfl
  | pending part waitingFor =>
    simp only [deliver, pure_bind]
    exact .pure _
  | blocked part external =>
    simp only [deliver, pure_bind]
    exact .pure _

theorem follows_resolve (name : String) (eps : List MethodId) :
    Follows write (·.handle name eps) (·.resolve write name eps) :=
  .after_notes (Session.onlyNotes_judge name eps) (follows_deliver write)

theorem follows_resolveUnit (u : SourceUnit) :
    Follows write (·.handleUnit u) (·.resolveUnit write u) := by
  unfold Session.handleUnit resolveUnit
  cases u.entryPoints with
  | nil => exact .pure none
  | cons e rest =>
    exact (follows_resolve write u.name (e :: rest)).bind fun verdict => .pure (some verdict)

theorem follows_retry (retried : List (String × Verdict)) (entry : Deferred) :
    Follows write (fun s => Session.retry (s, retried) entry)
      fun r => retry write (r, retried) entry := by
  have begun : Session.OnlyNotes fun s => (s.beginRetry entry.name, ()) :=
    fun _ => ⟨[_], fun _ => rfl⟩
  exact .after_notes begun fun _ =>
    (follows_resolve write entry.name entry.entryPoints).bind fun verdict =>
      .pure (retried ++ [(entry.name, verdict)])

theorem follows_retryReleased (announced : List MethodId) :
    Follows write (·.retryReleased announced) (·.retryReleased write announced) :=
  .after_notes (Session.onlyNotes_release announced) fun released =>
    .foldl (follows_retry write) released []

theorem follows_refresh (refreshed : List (String × Verdict)) (name : String) :
    Follows write (fun s => Session.refresh (s, refreshed) name)
      fun r => refresh write (r, refreshed) name := by
  have begun : Session.OnlyNotes fun s => (s.beginRefresh name, ()) :=
    fun _ => ⟨[_], fun _ => rfl⟩
  have again (eps : List MethodId) := Follows.after_notes begun fun _ =>
    (follows_resolve write name eps).bind fun verdict => .pure (refreshed ++ [(name, verdict)])
  intro s
  -- Whether the report is written stands in the tables, so both find the same.
  have same (journal : List Event) : (s.withJournal journal).finalized = s.finalized := rfl
  cases written : s.finalized[name]? with
  | none =>
    have passed : Follows write (fun s => (s, refreshed)) fun r => pure (r, refreshed) :=
      .pure refreshed
    obtain ⟨events, adds, run⟩ := passed s
    refine ⟨events, fun journal => ?_, fun r done => ?_⟩
    · simpa only [Session.refresh, same, written] using adds journal
    · simpa only [Session.refresh, refresh, during, same, written] using run r done
  | some eps =>
    obtain ⟨events, adds, run⟩ := again eps s
    refine ⟨events, fun journal => ?_, fun r done => ?_⟩
    · simpa only [Session.refresh, same, written] using adds journal
    · simpa only [Session.refresh, refresh, during, same, written] using run r done

theorem follows_absorbUnit (u : SourceUnit) :
    Follows write (·.absorbUnit u) (·.absorbUnit write u) := by
  have stale (widened : MethodSet) (names : List String) :
      Session.OnlyNotes fun s => (s, s.readersOf widened names) := fun _ => ⟨[], fun _ => rfl⟩
  exact .after_notes (Session.onlyNotes_registerUnit u) fun done =>
    (follows_resolveUnit write u).bind fun verdict =>
    (follows_retryReleased write done.announced).bind fun retried =>
    Follows.bind (.after_notes (stale done.widened (Session.resolvedNames u verdict retried))
      fun names => .foldl (follows_refresh write) names.toList []) fun refreshed =>
    .pure (⟨false, done.registered, done.duplicates, verdict, retried, refreshed⟩ : Outcome)

theorem follows_takeUnit (u : SourceUnit) : Follows write (·.ingest u) (·.takeUnit write u) := by
  have counted : Session.OnlyNotes fun s => (s.countUnit, s.settings.skipsUnit u.name) :=
    fun _ => ⟨[], fun _ => rfl⟩
  have skipped : Session.OnlyNotes fun s => (s.skipUnit u, ({ skipped := true } : Outcome)) :=
    fun _ => ⟨[_], fun _ => rfl⟩
  have taken (skips : Bool) : Follows write
      (fun s => if skips then (s.skipUnit u, { skipped := true }) else s.absorbUnit u)
      fun r => if skips then pure ({ r with session := r.session.skipUnit u }, { skipped := true })
        else r.absorbUnit write u := by
    cases skips with
    | true => exact .of_onlyNotes skipped
    | false => exact follows_absorbUnit write u
  exact .after_notes counted taken

/-- `F` does in a recorder what `f` does in its analysis, and counts what is written. -/
def Counts (f : Session → Session) (F : Recorder × Nat → m (Recorder × Nat)) : Prop :=
  ∀ s, ∃ events : List Event,
    Session.Adds (fun s => (f s, ())) s events.reverse ∧
    ∀ (r : Recorder) (done : Performed), F (r.during s done, done.written) =
      (fun done => (r.during (f s) done, done.written)) <$>
        events.foldlM (Performed.add write) done

theorem written_tell (done : Performed) (report : Report) (result : Except String Unit) :
    (done.tell report result).written = if result.isOk then done.written + 1 else done.written := by
  cases result <;> rfl

theorem counts_close (notice : String → List MethodId → Notice) (entry : Deferred) :
    Counts write (·.close notice entry) (close write notice · entry) := by
  intro s
  obtain ⟨notices, notes⟩ := Session.onlyNotes_nameUnwritten notice entry s
  have noted := during_noted notes
  cases part : (s.nameUnwritten notice entry).2 with
  | none =>
    refine ⟨notices.reverse.map .notice, fun journal => ?_, fun r done => ?_⟩
    · simp only [Session.close, notes journal, part, ← List.map_reverse, List.reverse_reverse]
    · simp only [Session.close, close, noted, part, foldlM_notices, map_pure]
  | some report =>
    refine ⟨notices.reverse.map .notice ++ [.offer report], fun journal => ?_, fun r done => ?_⟩
    · simp only [Session.close, notes journal, part, List.reverse_append, ← List.map_reverse,
        List.reverse_reverse]
      rfl
    · simp only [Session.close, close, noted, part, List.foldlM_append, foldlM_notices, pure_bind,
        emit_during, foldlM_offer, bind_pure_comp, Functor.map_map, written_tell]
      rfl

variable {write}

theorem Counts.trans {f g : Session → Session} {F G : Recorder × Nat → m (Recorder × Nat)}
    (hf : Counts write f F) (hg : Counts write g G) :
    Counts write (fun s => g (f s)) fun closed => F closed >>= G := by
  intro s
  obtain ⟨events, first, run⟩ := hf s
  obtain ⟨later, second, runs⟩ := hg (f s)
  refine ⟨events ++ later, fun journal => ?_, fun r done => ?_⟩
  · have first := congrArg (·.1) (first journal)
    have second := congrArg (·.1) (second (events.reverse ++ journal))
    simp only at first second
    simp only [first, second, List.reverse_append, List.append_assoc]
  · simp only [run, List.foldlM_append, map_bind, bind_map_left]
    exact bind_congr fun done => runs r done

variable (write)

theorem counts_foldl_close (notice : String → List MethodId → Notice) (entries : List Deferred) :
    Counts write (fun s => entries.foldl (Session.close notice) s)
      fun closed => entries.foldlM (close write notice) closed := by
  induction entries with
  | nil =>
    refine fun s => ⟨[], fun _ => rfl, fun r done => ?_⟩
    simp only [List.foldl_nil, List.foldlM_nil, map_pure]
  | cons entry rest ih =>
    simp only [List.foldlM_cons]
    exact (counts_close write notice entry).trans ih

variable {write} {r : Recorder}

theorem during_self (fresh : r.session.journal = []) : r.during r.session {} = r := by
  obtain ⟨⟨settings, program, waitList, blocked, finalized, readers, tally, journal⟩, _, _⟩ := r
  subst fresh
  rfl

theorem notices_flush_during (r : Recorder) (s : Session) (done : Performed) :
    (r.during s done).flush.2 = done.notices := by
  simp only [flush, during, Session.notices, Session.events, Session.withJournal, Event.notices,
    ← List.map_reverse, List.reverse_reverse, List.filterMap_map]
  exact List.filterMap_some

/-- From an empty journal, what is added is the journal. -/
theorem events_of_adds {s : Session} {events : List Event} (adds : Session.Adds f s events.reverse)
    (fresh : s.journal = []) : (f s).1.events = events := by
  have same : s.withJournal [] = s := by rw [← fresh]; rfl
  have journal : (f s).1 = (f s).1.withJournal events.reverse := by
    simpa only [same, List.append_nil] using congrArg (·.1) (adds [])
  rw [Session.events, journal]
  exact List.reverse_reverse events

omit [LawfulMonad m] in
/-- Between two requests, what follows is the same as performing a journal. -/
theorem Follows.run (h : Follows write f F) (fresh : r.session.journal = []) :
    F r = (fun done => (r.during (f r.session).1 done, (f r.session).2)) <$>
      (f r.session).1.events.foldlM (Performed.add write) {} := by
  obtain ⟨events, adds, run⟩ := h r.session
  rw [events_of_adds adds fresh, ← run, during_self fresh]

omit [LawfulMonad m] in
theorem Counts.run {f : Session → Session} {F : Recorder × Nat → m (Recorder × Nat)}
    (h : Counts write f F) (fresh : r.session.journal = []) :
    F (r, 0) = (fun done => (r.during (f r.session) done, done.written)) <$>
      (f r.session).events.foldlM (Performed.add write) {} := by
  obtain ⟨events, adds, run⟩ := h r.session
  have added : (f r.session).events = events := events_of_adds adds fresh
  rw [added, ← run, during_self fresh]

theorem ingest_eq (fresh : r.session.journal = []) (u : SourceUnit) :
    r.ingest write u = (fun (r', done) => (r', (r.session.ingest u).2, done.notices)) <$>
      r.perform write (r.session.ingest u).1 := by
  simp only [ingest, (follows_takeUnit write u).run fresh, perform, bind_pure_comp, Functor.map_map,
    notices_flush_during]

theorem handle_eq (fresh : r.session.journal = []) (name : String) (eps : List MethodId) :
    r.handle write name eps =
      (fun (r', done) => (r', (r.session.handle name eps).2, done.notices)) <$>
        r.perform write (r.session.handle name eps).1 := by
  simp only [handle, (follows_resolve write name eps).run fresh, perform, bind_pure_comp,
    Functor.map_map, notices_flush_during]

theorem closeAll_eq (fresh : r.session.journal = []) :
    r.closeAll write =
      (fun done => (r.during r.session.finish.1 done, ⟨r.session.finish.2, done.written⟩)) <$>
        r.session.finish.1.events.foldlM (Performed.add write) {} := by
  let left := r.session.letGo.2
  let r₀ : Recorder := { r with session := r.session.letGo.1 }
  have all := (counts_foldl_close write .neverResolved left.unresolved).trans
    (counts_foldl_close write .blockedOutside left.external)
  calc r.closeAll write
      = (fun closed => (closed.1, ⟨left, closed.2⟩)) <$>
          (left.unresolved.foldlM (close write .neverResolved) (r₀, 0) >>= fun closed =>
            left.external.foldlM (close write .blockedOutside) closed) := by
        simp only [map_eq_pure_bind, bind_assoc]
        rfl
    _ = (fun done => (r.during r.session.finish.1 done, ⟨r.session.finish.2, done.written⟩)) <$>
          r.session.finish.1.events.foldlM (Performed.add write) {} := by
        rw [all.run (r := r₀) fresh, Functor.map_map]
        rfl

theorem finish_eq (fresh : r.session.journal = []) :
    r.finish write =
      (fun (r', done) => (r', ⟨r.session.finish.2, done.written⟩, done.notices)) <$>
        r.perform write r.session.finish.1 := by
  simp only [finish, closeAll_eq fresh, perform, bind_pure_comp, Functor.map_map,
    notices_flush_during]

end Lawful

end Recorder

end DataTrail
