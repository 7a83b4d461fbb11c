import DataTrail.Proofs.Mirror
import DataTrail.Proofs.Writers

/-! The counts of an analysis. Each of them is bumped in one place of one phase, so each phase has
one equation for all counts, and the counts after a run are the lengths of what the run was asked and
has answered. A report is handed over for each final verdict and, if the settings ask for it, for
each report that the end leaves unwritten; the writer only decides which of the two counts of writes
goes up. -/

namespace DataTrail

/-- All verdicts that were given while a unit was taken in. -/
def Outcome.verdicts (o : Outcome) : List Verdict :=
  o.verdict.toList ++ o.retried.map (·.2) ++ o.refreshed.map (·.2)

namespace Answer

def outcomes : Answer → List Outcome
  | .outcome o => [o]
  | _ => []

def verdicts : Answer → List Verdict
  | .outcome o => o.verdicts
  | .verdict v => [v]
  | .leftovers _ => []

/-- The reports that the end of the analysis left unwritten. -/
def unwritten : Answer → List Deferred
  | .leftovers l => l.unresolved ++ l.external
  | _ => []

end Answer

namespace Session

variable {s s' t : Session} {name : String} {eps : List MethodId} {u : SourceUnit}
  {calls : List (String × List MethodId)} {results : List (String × Verdict)} {outcome : Outcome}

section Phases

theorem tally_noteAll (s : Session) (notices : List Notice) :
    (s.noteAll notices).tally = s.tally := by
  rw [noteAll_eq]

theorem tally_handle (s : Session) (name : String) (eps : List MethodId) :
    (s.handle name eps).1.tally = s.tally := by
  rcases handle_cases s name eps with external | ⟨external, pending⟩ | complete
  · obtain ⟨notices, h⟩ := handle_of_external external
    rw [h]
  · obtain ⟨notices, h⟩ := handle_of_pending external pending
    rw [h]
  · obtain ⟨notices, h⟩ := handle_of_complete complete
    rw [h]

/-- What the registration of the methods `fs` counts: each is new, known or without a body. -/
structure Tallies (s : Session) (fs : List Facts) (t : Session) (done : Registration) : Prop where
  tally : t.tally = { s.tally with
    methodsRegistered := s.tally.methodsRegistered + done.registered
    duplicateRegistrations := s.tally.duplicateRegistrations + done.duplicates
    abstractSkipped := s.tally.abstractSkipped + fs.countP (·.isAbstract) }
  each : done.registered + done.duplicates + fs.countP (·.isAbstract) = fs.length
  size : t.program.registry.size = s.program.registry.size + done.registered

theorem size_register {p : Program} {f : Facts} (new : p.registry.contains f.method = false) :
    (p.register f).registry.size = p.registry.size + 1 := by
  have new : f.method ∉ p.registry.records := by
    rw [← Std.ExtTreeMap.contains_iff_mem, Bool.not_eq_true]
    exact new
  simp [Program.register, Registry.register, Registry.size, Registry.contains,
    Std.ExtTreeMap.size_insertIfNew, new]

theorem Tallies.registerMethod {fs : List Facts} {done : Registration} (h : s.Tallies fs t done)
    (f : Facts) : s.Tallies (fs ++ [f]) (Session.registerMethod (t, done) f).1
      (Session.registerMethod (t, done) f).2 := by
  obtain ⟨tally, each, size⟩ := h
  rw [Session.registerMethod]
  by_cases bodiless : f.isAbstract = true
  · simp only [bodiless, if_true]
    refine ⟨?_, ?_, size⟩
    · simp [tally, bodiless, Nat.add_assoc]
    · simp [bodiless]
      omega
  · simp only [bodiless, if_false, Bool.false_eq_true, noteAll_eq]
    split
    case isTrue known =>
      refine ⟨?_, ?_, size⟩
      · simp [note, record, tally, bodiless, Nat.add_assoc]
      · simp [bodiless]
        omega
    case isFalse new =>
      refine ⟨?_, ?_, ?_⟩
      · simp [tally, bodiless, Nat.add_assoc]
      · simp [bodiless]
        omega
      · simp only [size_register (Bool.not_eq_true _ ▸ new), size, Nat.add_assoc]

theorem tallies_registerUnit (s : Session) (u : SourceUnit) :
    s.Tallies u.methods (s.registerUnit u).1 (s.registerUnit u).2 := by
  have methods : ∀ fs : List Facts, s.Tallies fs (fs.foldl Session.registerMethod (s, {})).1
      (fs.foldl Session.registerMethod (s, {})).2 := by
    intro fs
    induction fs using List.reverseRecOn with
    | nil => exact ⟨rfl, rfl, rfl⟩
    | append_singleton fs f ih =>
      rw [List.foldl_append]
      exact ih.registerMethod f
  obtain ⟨tally, each, size⟩ := methods u.methods
  exact ⟨tally, each, size⟩

theorem tally_handleUnit (s : Session) (u : SourceUnit) : (s.handleUnit u).1.tally = s.tally := by
  unfold handleUnit
  split
  · rfl
  · exact tally_handle s _ _

theorem tally_foldl_retry (entries : List Deferred) (s : Session) (acc : List (String × Verdict)) :
    (entries.foldl retry (s, acc)).1.tally =
        { s.tally with retries := s.tally.retries + entries.length } ∧
      (entries.foldl retry (s, acc)).2.length = acc.length + entries.length := by
  induction entries generalizing s acc with
  | nil => exact ⟨rfl, rfl⟩
  | cons entry rest ih =>
    rw [List.foldl_cons, retry]
    refine ⟨?_, ?_⟩
    · rw [(ih _ _).1, tally_handle]
      simp only [beginRetry, note, record, List.length_cons, Tally.mk.injEq, true_and, and_true]
      omega
    · rw [(ih _ _).2]
      simp only [List.length_append, List.length_cons, List.length_nil]
      omega

theorem tally_retryReleased (s : Session) (announced : List MethodId) :
    (s.retryReleased announced).1.tally =
      { s.tally with retries := s.tally.retries + (s.retryReleased announced).2.length } := by
  unfold retryReleased
  simp only [tally_foldl_retry, release, tally_noteAll, List.length_nil, Nat.zero_add]

theorem tally_foldl_refresh (names : List String) (s : Session) (acc : List (String × Verdict)) :
    ∃ results, (names.foldl refresh (s, acc)).2 = acc ++ results ∧
      (names.foldl refresh (s, acc)).1.tally =
        { s.tally with refreshes := s.tally.refreshes + results.length } := by
  induction names generalizing s acc with
  | nil => exact ⟨[], by simp⟩
  | cons name rest ih =>
    rw [List.foldl_cons, refresh]
    cases s.finalized[name]? with
    | none => exact ih s acc
    | some eps =>
      let t : Session := s.beginRefresh name
      obtain ⟨results, listed, tally⟩ := ih (t.handle name eps).1
        (acc ++ [(name, (t.handle name eps).2)])
      refine ⟨_ :: results, listed.trans (List.append_assoc _ _ _), tally.trans ?_⟩
      rw [tally_handle]
      simp only [t, beginRefresh, note, record, List.length_cons, Tally.mk.injEq, true_and]
      omega

theorem tally_absorbUnit (s : Session) (u : SourceUnit) :
    (s.absorbUnit u).1.tally = { s.tally with
      methodsRegistered := s.tally.methodsRegistered + (s.absorbUnit u).2.registered
      duplicateRegistrations := s.tally.duplicateRegistrations + (s.absorbUnit u).2.duplicates
      abstractSkipped := s.tally.abstractSkipped + u.methods.countP (·.isAbstract)
      retries := s.tally.retries + (s.absorbUnit u).2.retried.length
      refreshes := s.tally.refreshes + (s.absorbUnit u).2.refreshed.length } := by
  have registered := (tallies_registerUnit s u).tally
  let s₁ := (s.registerUnit u).1
  let done := (s.registerUnit u).2
  have own : (s₁.handleUnit u).1.tally = s₁.tally := tally_handleUnit s₁ u
  let s₂ := (s₁.handleUnit u).1
  have retried := tally_retryReleased s₂ done.announced
  let s₃ := (s₂.retryReleased done.announced).1
  obtain ⟨results, listed, refreshed⟩ := tally_foldl_refresh (s₃.readersOf done.widened
    (resolvedNames u (s₁.handleUnit u).2 (s₂.retryReleased done.announced).2)).toList s₃ []
  have listed : (s.absorbUnit u).2.refreshed = results := listed
  rw [listed]
  refine refreshed.trans ?_
  rw [retried, own, registered]
  rfl

theorem ingest_taken (takes : s.settings.skipsUnit u.name = false) :
    s.ingest u = s.countUnit.absorbUnit u := by
  simp only [ingest, takes, Bool.false_eq_true, if_false]

/-- All counts of a unit that is taken in. -/
theorem tally_ingest (takes : s.settings.skipsUnit u.name = false) :
    (s.ingest u).1.tally = {
      unitsSeen := s.tally.unitsSeen + 1
      unitsSkipped := s.tally.unitsSkipped
      methodsRegistered := s.tally.methodsRegistered + (s.ingest u).2.registered
      duplicateRegistrations := s.tally.duplicateRegistrations + (s.ingest u).2.duplicates
      abstractSkipped := s.tally.abstractSkipped + u.methods.countP (·.isAbstract)
      retries := s.tally.retries + (s.ingest u).2.retried.length
      refreshes := s.tally.refreshes + (s.ingest u).2.refreshed.length } := by
  rw [ingest_taken takes, tally_absorbUnit]
  rfl

theorem methods_ingest (takes : s.settings.skipsUnit u.name = false) :
    (s.ingest u).2.registered + (s.ingest u).2.duplicates + u.methods.countP (·.isAbstract) =
      u.methods.length := by
  rw [ingest_taken takes]
  exact (tallies_registerUnit _ u).each

theorem size_ingest (mirrored : s.program.Mirrored) (takes : s.settings.skipsUnit u.name = false) :
    (s.ingest u).1.program.registry.size =
      s.program.registry.size + (s.ingest u).2.registered := by
  rw [ingest_taken takes]
  let t : Session := s.countUnit
  have program : (t.absorbUnit u).1.program = (t.registerUnit u).1.program := by
    rw [(absorbs_absorbUnit (s := t) mirrored u).program,
      (registers_registerUnit (s := t) mirrored u).program]
  rw [program]
  exact (tallies_registerUnit t u).size

end Phases

section Run

/-- The counts, except those of the writes, are those of what was asked and answered. -/
structure Counted (settings : Settings) (requests : List Request) (answers : List Answer)
    (s : Session) : Prop where
  seen : s.tally.unitsSeen = (Request.units requests).length
  skipped : s.tally.unitsSkipped = (answers.flatMap Answer.outcomes).countP (·.skipped)
  registered : s.tally.methodsRegistered = s.program.registry.size
  methods :
    s.tally.methodsRegistered + s.tally.duplicateRegistrations + s.tally.abstractSkipped =
      ((settings.taken (Request.units requests)).flatMap (·.methods)).length
  retries : s.tally.retries = ((answers.flatMap Answer.outcomes).flatMap (·.retried)).length
  refreshes : s.tally.refreshes = ((answers.flatMap Answer.outcomes).flatMap (·.refreshed)).length

variable {settings : Settings} {requests : List Request} {answers : List Answer}

theorem units_append_ingest (requests : List Request) (u : SourceUnit) :
    Request.units (requests ++ [.ingest u]) = Request.units requests ++ [u] := by
  simp [Request.units]

/-- A unit that is left out is counted as seen and skipped. -/
theorem Counted.skip (h : s.Counted settings requests answers) (same : s.settings = settings)
    (skips : settings.skipsUnit u.name = true) :
    (s.ingest u).1.Counted settings (requests ++ [.ingest u])
      (answers ++ [.outcome (s.ingest u).2]) := by
  obtain ⟨seen, skipped, registered, methods, retries, refreshes⟩ := h
  simp only [ingest, same, skips, if_true, countUnit, skipUnit, note, record]
  constructor
  · simp [units_append_ingest, seen]
  · simp [Answer.outcomes, skipped]
  · exact registered
  · rw [units_append_ingest, settings.flatMap_taken_append, if_pos skips, List.append_nil]
    exact methods
  · simp [Answer.outcomes, retries]
  · simp [Answer.outcomes, refreshes]

theorem Counted.absorb (h : s.Counted settings requests answers) (same : s.settings = settings)
    (mirrored : s.program.Mirrored) (takes : settings.skipsUnit u.name = false) :
    (s.ingest u).1.Counted settings (requests ++ [.ingest u])
      (answers ++ [.outcome (s.ingest u).2]) := by
  obtain ⟨seen, skipped, registered, methods, retries, refreshes⟩ := h
  rw [← same] at takes
  have tally := tally_ingest takes
  have each := methods_ingest takes
  have size := size_ingest mirrored takes
  have included : (s.ingest u).2.skipped = false := by rw [ingest_taken takes]; rfl
  rw [same] at takes
  constructor
  · simp [tally, units_append_ingest, seen]
  · simp [tally, Answer.outcomes, included, skipped]
  · simp [tally, size, registered]
  · rw [units_append_ingest, settings.flatMap_taken_append, takes]
    simp only [tally, Bool.false_eq_true, if_false, List.length_append, ← methods, ← each]
    omega
  · simp [tally, Answer.outcomes, retries]
  · simp [tally, Answer.outcomes, refreshes]

/-- A request that brings no unit counts for nothing. -/
theorem Counted.pass (h : s.Counted settings requests answers) {request : Request} {answer : Answer}
    (tally : t.tally = s.tally) (program : t.program = s.program)
    (units : Request.units [request] = []) (silent : answer.outcomes = []) :
    t.Counted settings (requests ++ [request]) (answers ++ [answer]) := by
  have same : Request.units (requests ++ [request]) = Request.units requests := by
    rw [Request.units, List.filterMap_append, ← Request.units, ← Request.units, units,
      List.append_nil]
  have outcomes : (answers ++ [answer]).flatMap Answer.outcomes =
      answers.flatMap Answer.outcomes := by
    simp [silent]
  exact {
    seen := by rw [tally, same]; exact h.seen
    skipped := by rw [tally, outcomes]; exact h.skipped
    registered := by rw [tally, program]; exact h.registered
    methods := by rw [tally, same]; exact h.methods
    retries := by rw [tally, outcomes]; exact h.retries
    refreshes := by rw [tally, outcomes]; exact h.refreshes }

theorem Counted.serve (h : s.Counted settings requests answers) (same : s.settings = settings)
    (mirrored : s.program.Mirrored) (request : Request) :
    (s.serve request).Counted settings (requests ++ [request]) (answers ++ [s.reply request]) := by
  cases request with
  | ingest u =>
    have taken : (s.ingest u).1.Counted settings (requests ++ [.ingest u])
        (answers ++ [.outcome (s.ingest u).2]) := by
      cases skips : settings.skipsUnit u.name with
      | true => exact h.skip same skips
      | false => exact h.absorb same mirrored skips
    exact ⟨taken.seen, taken.skipped, taken.registered, taken.methods, taken.retries,
      taken.refreshes⟩
  | handle name eps =>
    exact h.pass (tally_handle s name eps) (program_serve s (.handle name eps)) rfl rfl
  | finish =>
    obtain ⟨journal, eq⟩ := finish_eq s
    have tally : s.finish.1.tally = s.tally := by rw [eq]
    exact h.pass tally (program_serve s .finish) rfl rfl

theorem counted_after (settings : Settings) (requests : List Request) :
    (after settings requests).Counted settings requests ((start settings).replies requests) := by
  induction requests using List.reverseRecOn with
  | nil => constructor <;> rfl
  | append_singleton requests request ih =>
    rw [after_append, replies_append]
    exact ih.serve (settings_after settings requests) (sound_after settings requests).mirrored
      request

end Run

section Offers

theorem ResolvesAll.length_offered (all : s.ResolvesAll calls results s') :
    s'.offered.length = s.offered.length + (results.map (·.2)).countP (·.isFinalized) := by
  have names := congrArg List.length all.names_offered
  simpa [List.countP_eq_length_filter, List.filter_map, Function.comp_def] using names

theorem Absorbs.length_offered (absorbed : s.Absorbs u s' outcome) :
    s'.offered.length = s.offered.length + outcome.verdicts.countP (·.isFinalized) := by
  obtain ⟨done, s₁, s₂, s₃, again, registered, own, retried, refreshed, _⟩ := absorbed
  have first := own.length_offered
  have second : s₃.offered.length = s₂.offered.length + _ := retried.length_offered
  rw [registered.offered] at first
  rw [refreshed.length_offered, second, first, Outcome.verdicts, List.countP_append,
    List.countP_append]
  simp [Function.comp_def, Nat.add_assoc]

theorem offered_close (notice : String → List MethodId → Notice) (s : Session) (entry : Deferred) :
    (close notice s entry).offered = s.offered ++
      if s.settings.emitPartialOnFinish then [(s.survey entry.name entry.entryPoints).report]
      else [] := by
  cases asked : s.settings.emitPartialOnFinish <;>
    simp [close, nameUnwritten, noteExternal, noteAll_eq, note, offer, record, asked, offered, events,
      Event.offers, survey]

/-- If the settings ask for it, each entry is handed over as far as it is known. -/
theorem offered_foldl_close (notice : String → List MethodId → Notice) (entries : List Deferred)
    (s : Session) :
    (entries.foldl (close notice) s).offered = s.offered ++
      if s.settings.emitPartialOnFinish then
        entries.map fun entry => (s.survey entry.name entry.entryPoints).report
      else [] := by
  induction entries generalizing s with
  | nil => simp
  | cons entry rest ih =>
    obtain ⟨journal, same⟩ := foldl_close notice [entry] s
    have same : close notice s entry = { s with journal } := same
    rw [List.foldl_cons, ih, offered_close, same]
    split
    · simp [survey]
    · simp

theorem offered_finish (s : Session) :
    s.finish.1.offered = s.offered ++
      if s.settings.emitPartialOnFinish then
        (s.finish.2.unresolved ++ s.finish.2.external).map fun entry =>
          (s.survey entry.name entry.entryPoints).report
      else [] := by
  let t : Session := { s with waitList := .empty, blocked := ∅ }
  obtain ⟨journal, first⟩ := foldl_close .neverResolved s.waitList.toList t
  have closed : s.finish.1 = s.blocked.values.foldl (close .blockedOutside)
      (s.waitList.toList.foldl (close .neverResolved) t) := rfl
  rw [closed, offered_foldl_close, offered_foldl_close, first, List.append_assoc]
  congr 1
  cases s.settings.emitPartialOnFinish with
  | false => simp
  | true =>
    simp only [if_true, List.map_append]
    rfl

/-- A report is handed over for each final verdict, and for what the end leaves unwritten if the
settings ask for it. -/
theorem length_offered_answer (mirrored : s.program.Mirrored) (performed : s.offered = [])
    (request : Request) :
    (s.answer request).offered.length = (s.reply request).verdicts.countP (·.isFinalized) +
      if s.settings.emitPartialOnFinish then (s.reply request).unwritten.length else 0 := by
  cases request with
  | ingest u =>
    simp only [answer, reply, Answer.verdicts, Answer.unwritten, List.length_nil, ite_self,
      Nat.add_zero]
    rcases ingest_cases mirrored u with ⟨skips, skipped⟩ | ⟨_, absorbed⟩
    · rw [ingest_skipped skips, skipped.offered, performed]
      rfl
    · rw [absorbed.length_offered, performed, List.length_nil, Nat.zero_add]
  | handle name eps =>
    have resolved := handle_resolves s name eps
    simp only [answer, reply, Answer.verdicts, Answer.unwritten, List.length_nil, ite_self,
      Nat.add_zero, resolved.offered, performed, List.nil_append]
    cases final : (s.handle name eps).2.isFinalized <;> simp [final]
  | finish =>
    simp only [answer, reply, Answer.verdicts, Answer.unwritten, List.countP_nil, Nat.zero_add]
    rw [offered_finish, performed]
    split <;> simp

theorem length_offers (sound : s.Sound) (performed : s.offered = []) (requests : List Request) :
    (s.offers requests).length =
      ((s.replies requests).flatMap Answer.verdicts).countP (·.isFinalized) +
        if s.settings.emitPartialOnFinish then
          ((s.replies requests).flatMap Answer.unwritten).length
        else 0 := by
  induction requests generalizing s with
  | nil => simp [offers, replies]
  | cons request rest ih =>
    have first := length_offered_answer sound.mirrored performed request
    have others := ih (sound.serve request) rfl
    rw [settings_serve sound request] at others
    simp only [offers, replies, List.flatMap_cons, List.countP_append, List.length_append, first,
      others]
    split <;> omega

end Offers

end Session

namespace Recorder

open Session

/-- Where every write succeeds, no failure is counted, and as many reports as are kept. -/
theorem counts_keepReport (settings : Settings) (requests : List Request) :
    let run := ((start settings).respondAll keepReport requests).run []
    run.1.1.writeFailures = 0 ∧ run.1.1.reportsWritten = run.2.length := by
  simp only [run_respondAll, run_mapM_keepReport, advance, List.countP_map, List.nil_append]
  constructor
  · simp [start, Function.comp_def, Except.isOk, Except.toBool]
  · simp [start, Function.comp_def, Except.isOk, Except.toBool]

/-- Whatever was asked and whoever writes, the counts are those of what was asked and answered. A
write is counted for each final verdict and, if the settings ask for it, for each report that an end
of the analysis left unwritten. With all reports kept, no write fails and the count is theirs. -/
theorem counts_conserved {σ : Type} (settings : Settings) (requests : List Request)
    (write : Writer (StateM σ)) (a : σ) :
    let run := ((start settings).respondAll write requests).run a
    let r := run.1.1
    let answers := run.1.2
    let keeping := ((start settings).respondAll keepReport requests).run []
    r.session.Counted settings requests answers ∧
      r.reportsWritten + r.writeFailures =
        (answers.flatMap Answer.verdicts).countP (·.isFinalized) +
          (if settings.emitPartialOnFinish then (answers.flatMap Answer.unwritten).length else 0) ∧
      keeping.1.1.writeFailures = 0 ∧ keeping.1.1.reportsWritten = keeping.2.length := by
  intro run r answers keeping
  have session : r.session = after settings requests := by
    simp only [r, run, run_respondAll, advance]
  have said : answers = (Session.start settings).replies requests := by
    simp only [answers, run, run_respondAll]
  refine ⟨?_, ?_, counts_keepReport settings requests⟩
  · rw [session, said]
    exact counted_after settings requests
  · rw [said]
    calc r.reportsWritten + r.writeFailures
        = ((Session.start settings).offers requests).length :=
          writes_respondAll write settings requests a
      _ = _ := length_offers (sound_start settings) rfl requests

end Recorder

end DataTrail
