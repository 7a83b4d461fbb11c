import DataTrail.Proofs.Freshness
import DataTrail.Proofs.Retry

/-! A unit that is delivered twice. Its methods are known the second time, so nothing is announced and
no other report is touched. Its own report is resolved again in the same program, and a report that
stands as its entry points call for is steady: to resolve it once more changes nothing. -/

namespace DataTrail

namespace Session

variable {s s' t : Session} {name n : String} {eps : List MethodId} {verdict : Verdict}
  {calls : List (String × List MethodId)} {results : List (String × Verdict)} {u : SourceUnit}
  {outcome : Outcome} {kept kept' : List Report} {survey : Survey}

/-- The program and what is known of the reports are the same in `s'` as in `s`. -/
structure SameTables (s s' : Session) : Prop where
  program : s'.program = s.program
  waitList : s'.waitList = s.waitList
  blocked : s'.blocked = s.blocked
  finalized : s'.finalized = s.finalized
  readers : s'.readers = s.readers

theorem Quiet.sameTables (q : s.Quiet s') : s.SameTables s' :=
  ⟨q.program, q.waitList, q.blocked, q.finalized, q.readers⟩

theorem SameTables.trans (h : s.SameTables t) (h' : t.SameTables s') : s.SameTables s' :=
  ⟨h'.program.trans h.program, h'.waitList.trans h.waitList, h'.blocked.trans h.blocked,
    h'.finalized.trans h.finalized, h'.readers.trans h.readers⟩

section Wrote

/-- The last report of the name `n` is that of the survey, and `n` is known as a reader of the
interfaces that it was read from. -/
structure Wrote (s : Session) (kept : List Report) (n : String) (survey : Survey) : Prop where
  latest : Report.latest? (kept ++ s.offered) n = some survey.report
  reads : ∀ m ∈ survey.findings.interfaces, n ∈ s.readers.getD m ∅

theorem SameReports.wrote (same : s.SameReports s') (h : s.Wrote kept n survey) :
    s'.Wrote kept n survey where
  latest := by rw [same.offered]; exact h.latest
  reads := by rw [same.readers]; exact h.reads

theorem Resolves.wrote (resolved : s.Resolves n eps verdict s') (complete : verdict.isFinalized) :
    s'.Wrote kept n (s.survey n eps) where
  latest := resolved.latest?_self complete
  reads m hm := (resolved.readers m n).mpr (.inr ⟨complete, hm, rfl⟩)

theorem Resolves.wrote_of_ne (resolved : s.Resolves name eps verdict s') (other : name ≠ n)
    (h : s.Wrote kept n survey) : s'.Wrote kept n survey where
  latest := (resolved.latest?_of_ne other).trans h.latest
  reads m hm := (resolved.readers m n).mpr (.inl (h.reads m hm))

theorem ResolvesAll.wrote_of_not_mem (all : s.ResolvesAll calls results s')
    (others : n ∉ calls.map (·.1)) (h : s.Wrote kept n survey) : s'.Wrote kept n survey := by
  induction all with
  | done quiet => exact quiet.wrote h
  | next step _ ih =>
    rw [List.map_cons, List.mem_cons, not_or] at others
    exact ih others.2 (step.wrote_of_ne (Ne.symm others.1) h)

theorem ResolvesAll.wrote (all : s.ResolvesAll calls results s')
    (distinct : (calls.map (·.1)).Nodup) (call : (n, eps) ∈ calls)
    (complete : (s.handle n eps).2.isFinalized) : s'.Wrote kept n (s.survey n eps) := by
  induction all with
  | done => exact absurd call List.not_mem_nil
  | @next first second last name eps₁ verdict calls results step rest ih =>
    rw [List.map_cons, List.nodup_cons] at distinct
    rcases List.mem_cons.mp call with same | later
    · obtain ⟨rfl, rfl⟩ := Prod.mk.inj same
      exact rest.wrote_of_not_mem distinct.1 (step.wrote (step.verdict_eq ▸ complete))
    · have survey : second.survey n eps = first.survey n eps := by
        rw [Session.survey, Session.survey, step.program, step.settings]
      rw [← verdict_congr step.program step.settings] at complete
      exact survey ▸ ih distinct.2 later complete

end Wrote

section Steady

/-- The report `n` stands as the entry points `eps` call for, so that resolving them again makes no
difference. -/
structure Steady (s : Session) (kept : List Report) (n : String) (eps : List MethodId) : Prop
    extends SettlesAt s n eps (s.handle n eps).2 s where
  wrote : (s.handle n eps).2.isFinalized → s.Wrote kept n (s.survey n eps)

theorem SettlesAt.fixed {a b c : Session} (settled : a.SettlesAt n eps verdict b)
    (same : b.SameAt c n) (program : c.program = a.program) (settings : c.settings = a.settings) :
    c.SettlesAt n eps verdict c where
  fits := by rw [program, settings]; exact settled.fits
  finalized := same.finalized.trans settled.finalized
  blocked := same.blocked.trans settled.blocked
  waitList := by
    have entry := same.waitList.trans settled.waitList
    cases verdict with
    | finalized report => rfl
    | blocked part external => exact entry
    | pending part waitingFor =>
      rw [deferredBy, ← program] at entry
      rw [deferredBy, WaitList.deferral_again entry, entry]

theorem Steady.congr (steady : s.Steady kept n eps) (same : s.SameTables t)
    (settings : t.settings = s.settings)
    (latest : Report.latest? (kept' ++ t.offered) n = Report.latest? (kept ++ s.offered) n) :
    t.Steady kept' n eps := by
  have verdict := verdict_congr same.program settings n eps
  refine ⟨?_, fun complete => ?_⟩
  · rw [verdict]
    refine steady.toSettlesAt.fixed ⟨?_, ?_, ?_⟩ same.program settings
    · rw [same.finalized]
    · rw [same.blocked]
    · rw [same.waitList]
  · rw [verdict] at complete
    obtain ⟨last, reads⟩ := steady.wrote complete
    rw [Session.survey, same.program, settings]
    exact ⟨latest.trans last, same.readers ▸ reads⟩

theorem readersWith_eq_self {interfaces : MethodSet}
    (known : ∀ m ∈ interfaces, n ∈ s.readers.getD m ∅) : s.readersWith n interfaces = s.readers := by
  refine List.foldlRecOn (motive := (· = s.readers)) _ _ rfl fun readers same m hm => ?_
  subst same
  exact insert_insert_eq_self (known m (Std.ExtTreeSet.mem_toList.mp hm))

theorem readers_handle (s : Session) (name : String) (eps : List MethodId) :
    (s.handle name eps).1.readers = if (s.handle name eps).2.isFinalized then
      s.readersWith name (s.survey name eps).findings.interfaces else s.readers := by
  rcases handle_cases s name eps with external | ⟨external, pending⟩ | complete
  · obtain ⟨notices, h⟩ := handle_of_external external
    rw [h]
    rfl
  · obtain ⟨notices, h⟩ := handle_of_pending external pending
    rw [h]
    rfl
  · obtain ⟨notices, h⟩ := handle_of_complete complete
    rw [h]
    rfl

theorem Steady.sameTables (steady : s.Steady kept n eps) (valid : s.waitList.Valid) :
    s.SameTables (s.handle n eps).1 := by
  have resolved := handle_resolves s n eps
  have same : ∀ k, s.SameAt (s.handle n eps).1 k := by
    intro k
    by_cases own : n = k
    · exact own ▸ steady.toSettlesAt.sameAt resolved.settlesAt rfl rfl
    · exact resolved.sameAt own
  refine ⟨resolved.program, valid.ext (resolved.valid valid) fun k => (same k).waitList,
    Std.ExtTreeMap.ext_getElem? fun k => (same k).blocked,
    Std.ExtTreeMap.ext_getElem? fun k => (same k).finalized, ?_⟩
  rw [readers_handle]
  split
  case isTrue complete => exact readersWith_eq_self (steady.wrote complete).reads
  case isFalse => rfl

/-- A report that is written again is the same report. -/
theorem Steady.latest? (steady : s.Steady kept n eps) (k : String) :
    Report.latest? (kept ++ (s.handle n eps).1.offered) k = Report.latest? (kept ++ s.offered) k := by
  have resolved := handle_resolves s n eps
  by_cases own : n = k
  · subst own
    by_cases complete : (s.handle n eps).2.isFinalized
    · exact (resolved.wrote complete).latest.trans (steady.wrote complete).latest.symm
    · rw [resolved.offered, if_neg complete, List.append_nil]
  · exact resolved.latest?_of_ne own

end Steady

section First

/-- A report that has just been deferred waits for nothing that the unit has brought. -/
theorem SettlesAt.awaiting?_eq_self {fs : List Facts} {done : Registration} {s₁ s₂ : Session}
    {d : Deferred} (registered : s.Registers fs s₁ done) (mirrored : s.program.Mirrored)
    (settled : s₁.SettlesAt n eps verdict s₂) (valid : s₂.waitList.Valid)
    (idle : s₁.waitList.find? n = none) (waits : s₂.waitList.find? n = some d) :
    d.awaiting? done.announced = some d := by
  refine Deferred.awaiting?_eq_self (valid.proper n d waits).waits fun m hm => ?_
  refine registered.not_mem_announced mirrored ?_
  rw [settled.waitList] at waits
  cases settled.fits with
  | blocked => simp [deferredBy] at waits
  | finalized => simp [deferredBy, idle] at waits
  | pending _ _ exact =>
    rw [deferredBy, Option.some.injEq] at waits
    subst waits
    rw [WaitList.mem_waitingFor_deferral, idle] at hm
    obtain ⟨e, _, _, missing⟩ := (exact m).mp (hm.resolve_left (by simp))
    exact missing

/-- A report that waits for nothing that has arrived is not resolved when others are released. -/
theorem ResolvesAll.sameAt_of_stays {arrived : List MethodId}
    (all : (s.releasing arrived).ResolvesAll (s.released arrived) results s')
    (valid : s.waitList.Valid)
    (stays : ∀ d, s.waitList.find? n = some d → d.awaiting? arrived = some d) :
    n ∉ (s.released arrived).map (·.1) ∧ s.SameAt s' n := by
  have notReleased : n ∉ (s.released arrived).map (·.1) := by
    intro listed
    obtain ⟨d, waits, last⟩ := (mem_released_names valid).mp listed
    simp [stays d waits] at last
  have releasing : s.SameAt (s.releasing arrived) n := by
    refine ⟨rfl, rfl, ?_⟩
    rw [Session.releasing, WaitList.find?_releaseEach valid]
    cases waits : s.waitList.find? n with
    | none => rfl
    | some d => exact stays d waits
  exact ⟨notReleased, releasing.trans (all.sameAt notReleased)⟩

/-- Once a unit is taken in, its own report is steady, unless the name was on the wait-list before. -/
theorem Absorbs.steady (absorbed : s.Absorbs u s' outcome) (sound : s.Sound)
    (asks : u.entryPoints ≠ []) (idle : s.waitList.find? u.name = none) (kept : List Report) :
    s'.Steady kept u.name u.entryPoints := by
  obtain ⟨done, s₁, s₂, s₃, again, registered, own, retried, refreshed, mem_again, _⟩ := absorbed
  have call : (u.name, u.entryPoints) ∈ u.calls := SourceUnit.mem_calls.mpr ⟨asks, rfl, rfl⟩
  have valid : s₂.waitList.Valid := own.valid (registered.waitList ▸ sound.valid)
  have settled := own.settlesAt_handle u.nodup_calls call
  -- The report is resolved once: it is not released, and a unit does not refresh its own report.
  obtain ⟨notReleased, at₃⟩ := retried.sameAt_of_stays valid fun d waits =>
    settled.awaiting?_eq_self registered sound.mirrored valid (registered.waitList ▸ idle) waits
  have notAgain : u.name ∉ again.map (·.1) := by
    intro listed
    obtain ⟨⟨_, eps⟩, listed, named⟩ := List.mem_map.mp listed
    subst named
    refine ((mem_again _ eps).mp listed).1.1 (List.mem_append_left _ ?_)
    exact SourceUnit.mem_names_calls.mpr ⟨asks, rfl⟩
  have same : s₂.SameAt s' u.name := at₃.trans (refreshed.sameAt notAgain)
  have program : s'.program = s₁.program :=
    refreshed.program.trans (retried.program.trans own.program)
  have settings : s'.settings = s₁.settings :=
    refreshed.settings.trans (retried.settings.trans own.settings)
  have verdict := verdict_congr program settings u.name u.entryPoints
  refine ⟨verdict ▸ settled.fixed same program settings, fun complete => ?_⟩
  have wrote : s₂.Wrote kept u.name (s₁.survey u.name u.entryPoints) :=
    own.wrote u.nodup_calls call (verdict ▸ complete)
  have wrote : (s₂.releasing done.announced).Wrote kept u.name (s₁.survey u.name u.entryPoints) :=
    ⟨wrote.latest, wrote.reads⟩
  rw [Session.survey, program, settings]
  exact refreshed.wrote_of_not_mem notAgain (retried.wrote_of_not_mem notReleased wrote)

end First

section Second

theorem registerMethod_known {f : Facts}
    (known : f.isAbstract = false → s.program.registry.contains f.method) (done : Registration) :
    s.Quiet (registerMethod (s, done) f).1 ∧
      ∃ duplicates, (registerMethod (s, done) f).2 = { done with duplicates } := by
  rw [registerMethod]
  cases bodiless : f.isAbstract with
  | true =>
    simp only [if_true]
    exact ⟨quiet_tally s _, done.duplicates, rfl⟩
  | false =>
    have noted := quiet_noteAll s (f.error.map (.extractionFailed f.method)).toList
    have known := known bodiless
    rw [← noted.program] at known
    simp only [Bool.false_eq_true, if_false, known, if_true]
    exact ⟨noted.trans ((quiet_note _ _).trans (quiet_tally _ _)), _, rfl⟩

theorem registerUnit_known (known : ∀ f ∈ u.bodies, s.program.registry.contains f.method) :
    s.Quiet (s.registerUnit u).1 ∧ ∃ duplicates, (s.registerUnit u).2 = { duplicates } := by
  have methods : ∀ fs : List Facts, (∀ f ∈ fs, f ∈ u.methods) →
      s.Quiet (fs.foldl registerMethod (s, {})).1 ∧
        ∃ duplicates, (fs.foldl registerMethod (s, {})).2 = { duplicates } := by
    intro fs listed
    induction fs using List.reverseRecOn with
    | nil => exact ⟨Quiet.refl s, 0, rfl⟩
    | append_singleton fs f ih =>
      obtain ⟨quiet, duplicates, done⟩ := ih fun g hg => listed g (List.mem_append_left _ hg)
      have known : f.isAbstract = false →
          (fs.foldl registerMethod (s, {})).1.program.registry.contains f.method := by
        intro body
        rw [quiet.program]
        exact known f (List.mem_filter.mpr ⟨listed f (by simp), by simp [body]⟩)
      obtain ⟨quiet', duplicates', done'⟩ :=
        registerMethod_known known (fs.foldl registerMethod (s, {})).2
      rw [List.foldl_append, List.foldl_cons, List.foldl_nil]
      refine ⟨quiet.trans quiet', duplicates', ?_⟩
      rw [done', done]
  obtain ⟨quiet, duplicates, done⟩ := methods u.methods fun _ => id
  exact ⟨quiet.trans (quiet_note _ _), duplicates, done⟩

theorem retryReleased_nil (s : Session) : s.retryReleased [] = (s, []) := by
  simp only [retryReleased, release, WaitList.releaseEach, List.foldl_nil, WaitList.inNameOrder,
    List.map_nil, List.mergeSort_nil]
  rfl

theorem readersOf_empty (s : Session) (settled : List String) : s.readersOf ∅ settled = ∅ := by
  simp [readersOf]

/-- Of a unit that is known, only its own report is resolved. -/
theorem absorbUnit_known (known : ∀ f ∈ u.bodies, s.program.registry.contains f.method) :
    ∃ t duplicates, s.Quiet t ∧
      s.absorbUnit u = ((t.handleUnit u).1, { duplicates, verdict := (t.handleUnit u).2 }) := by
  obtain ⟨quiet, duplicates, done⟩ := registerUnit_known known
  refine ⟨(s.registerUnit u).1, duplicates, quiet, ?_⟩
  simp only [absorbUnit, done, retryReleased_nil, readersOf_empty]
  rfl

theorem ingest_known (takes : s.settings.skipsUnit u.name = false)
    (known : ∀ f ∈ u.bodies, s.program.registry.contains f.method) :
    ∃ t duplicates, s.Quiet t ∧
      s.ingest u = ((t.handleUnit u).1, { duplicates, verdict := (t.handleUnit u).2 }) := by
  have seen := quiet_tally s { s.tally with unitsSeen := s.tally.unitsSeen + 1 }
  obtain ⟨t, duplicates, quiet, absorbed⟩ := absorbUnit_known
    (s := s.countUnit) known
  refine ⟨t, duplicates, seen.trans quiet, ?_⟩
  rw [ingest, takes]
  exact absorbed

end Second

section Both

theorem handleUnit_of_silent (silent : u.entryPoints = []) : s.handleUnit u = (s, none) := by
  rw [handleUnit, silent]

theorem handleUnit_of_asks (asks : u.entryPoints ≠ []) :
    s.handleUnit u = ((s.handle u.name u.entryPoints).1, some (s.handle u.name u.entryPoints).2) := by
  rw [handleUnit]
  split
  case h_1 silent => exact absurd silent asks
  case h_2 => rfl

theorem verdict_handleUnit_congr (program : t.program = s.program)
    (settings : t.settings = s.settings) (u : SourceUnit) :
    (t.handleUnit u).2 = (s.handleUnit u).2 := by
  by_cases silent : u.entryPoints = []
  · rw [handleUnit_of_silent silent, handleUnit_of_silent silent]
  · rw [handleUnit_of_asks silent, handleUnit_of_asks silent, verdict_congr program settings]

/-- The verdict of a unit is the one that the program with the unit calls for. -/
theorem Absorbs.verdict_eq (absorbed : s.Absorbs u s' outcome) :
    outcome.verdict = (s'.handleUnit u).2 := by
  obtain ⟨done, s₁, s₂, s₃, again, _, own, retried, refreshed, _⟩ := absorbed
  rw [verdict_handleUnit_congr (refreshed.program.trans (retried.program.trans own.program))
    (refreshed.settings.trans (retried.settings.trans own.settings))]
  have listed := own.results_eq
  rw [SourceUnit.calls] at listed
  by_cases silent : u.entryPoints = []
  · rw [handleUnit_of_silent silent]
    simpa [silent] using listed
  · rw [handleUnit_of_asks silent]
    cases given : outcome.verdict with
    | none => simp [silent, given] at listed
    | some verdict => simpa [silent, given] using listed

theorem sameTables_handleUnit (valid : s.waitList.Valid)
    (steady : u.entryPoints ≠ [] → s.Steady kept u.name u.entryPoints) :
    s.SameTables (s.handleUnit u).1 ∧
      ∀ n, Report.latest? (kept ++ (s.handleUnit u).1.offered) n =
        Report.latest? (kept ++ s.offered) n := by
  by_cases silent : u.entryPoints = []
  · rw [handleUnit_of_silent silent]
    exact ⟨(Quiet.refl s).sameTables, fun n => rfl⟩
  · rw [handleUnit_of_asks silent]
    exact ⟨(steady silent).sameTables valid, (steady silent).latest?⟩

/-- What it comes to that a unit is taken in again, right after the first time. -/
theorem ingest_again (sound : s.Sound) (idle : s.waitList.find? u.name = none)
    (kept : List Report) :
    let t := s.serve (.ingest u)
    let kept := kept ++ (s.ingest u).1.offered
    t.SameTables (t.ingest u).1 ∧
      (∀ n, Report.latest? (kept ++ (t.ingest u).1.offered) n = Report.latest? kept n) ∧
      (t.ingest u).2.registered = 0 ∧ (t.ingest u).2.retried = [] ∧ (t.ingest u).2.refreshed = [] ∧
      (t.ingest u).2.verdict = (s.ingest u).2.verdict := by
  intro t keptThen
  have settings : t.settings = s.settings := settings_serve sound _
  rcases ingest_cases sound.mirrored u with ⟨skips, _⟩ | ⟨takes, absorbed⟩
  · rw [← settings] at skips
    have quiet : t.Quiet (t.ingest u).1 := by
      rcases ingest_cases (sound.serve (.ingest u)).mirrored u with ⟨_, quiet⟩ | ⟨takes, _⟩
      · exact quiet
      · exact absurd (takes.symm.trans skips) Bool.false_ne_true
    rw [ingest_skipped skips, ingest_skipped (settings ▸ skips)]
    refine ⟨quiet.sameTables, fun n => ?_, rfl, rfl, rfl, rfl⟩
    rw [quiet.offered, show t.offered = [] from rfl, List.append_nil]
  · rw [← settings] at takes
    have known : ∀ f ∈ u.bodies, t.program.registry.contains f.method := by
      intro f hf
      rw [show t.program = _ from absorbed.program]
      exact Program.contains_foldl_register hf
    obtain ⟨a, duplicates, quiet, again⟩ := ingest_known takes known
    have cleared : (s.ingest u).1.SameTables t := ⟨rfl, rfl, rfl, rfl, rfl⟩
    have same : (s.ingest u).1.SameTables a := cleared.trans quiet.sameTables
    have kept_a : keptThen ++ a.offered = keptThen := by
      rw [quiet.offered, show t.offered = [] from rfl, List.append_nil]
    have steady (asks : u.entryPoints ≠ []) : a.Steady keptThen u.name u.entryPoints :=
      (absorbed.steady sound asks idle kept).congr same quiet.settings (by rw [kept_a])
    have valid : a.waitList.Valid := quiet.waitList ▸ (sound.serve (.ingest u)).valid
    obtain ⟨tables, latest⟩ := sameTables_handleUnit valid steady
    rw [again, absorbed.verdict_eq]
    refine ⟨quiet.sameTables.trans tables, fun n => ?_, rfl, rfl, rfl,
      verdict_handleUnit_congr same.program quiet.settings u⟩
    rw [latest n, kept_a]

end Both

end Session

namespace Recorder

open Session

/-- A unit may be delivered twice in a row, unless its name is on the wait-list before: the second
time it registers nothing, no other report is resolved, and its own has the same verdict. The program
and the tables stay as they are, and of every name the same report is kept last. -/
theorem second_delivery_changes_nothing (settings : Settings) (requests : List Request)
    (u : SourceUnit)
    (idle : (recorded settings requests).1.session.waitList.find? u.name = none) :
    let before := recorded settings requests
    let first := recorded settings (requests ++ [.ingest u])
    let second := recorded settings (requests ++ [.ingest u, .ingest u])
    let outcome := (first.1.session.ingest u).2
    first.1.session.SameTables second.1.session ∧
      (∀ n, Report.latest? second.2 n = Report.latest? first.2 n) ∧
      outcome.registered = 0 ∧ outcome.retried = [] ∧ outcome.refreshed = [] ∧
      outcome.verdict = (before.1.session.ingest u).2.verdict := by
  intro before first second outcome
  have sound : before.1.session.Sound := session_recorded settings requests ▸ sound_after _ _
  obtain ⟨firstSession, firstKept⟩ := recorded_append settings requests (.ingest u)
  obtain ⟨secondSession, secondKept⟩ :=
    recorded_append settings (requests ++ [.ingest u]) (.ingest u)
  rw [List.append_assoc, List.singleton_append] at secondSession secondKept
  obtain ⟨same, latest, outcomes⟩ := ingest_again sound idle before.2
  rw [← firstSession] at same latest outcomes
  refine ⟨?_, fun n => ?_, outcomes⟩
  · rw [show second.1.session = _ from secondSession]
    exact same.trans ⟨rfl, rfl, rfl, rfl, rfl⟩
  · rw [show second.2 = _ from secondKept, show first.2 = _ from firstKept]
    exact latest n

open Sample in
set_option maxRecDepth 10000 in
/-- A shop brings a method twice, is complete by it, and releases a form that waits. -/
theorem second_delivery_changes_nothing_shop :
    let requests : List Request := [.ingest (caller "Form" (method "Store" "load")), .ingest mailing]
    let disk := (implementor "Disk" "Email" (method "Store" "load")).methods
    let shop : SourceUnit :=
      { name := "Shop", methods := (caller "Shop" (method "Store" "load")).methods ++ disk ++ disk }
    let before := recorded {} requests
    let first := recorded {} (requests ++ [.ingest shop])
    let second := recorded {} (requests ++ [.ingest shop, .ingest shop])
    let outcome := (first.1.session.ingest shop).2
    before.1.session.waitList.find? "Shop" = none ∧
      first.1.session.SameTables second.1.session ∧
      (∀ n, Report.latest? second.2 n = Report.latest? first.2 n) ∧
      outcome.registered = 0 ∧ outcome.retried = [] ∧ outcome.refreshed = [] ∧
      outcome.verdict = (before.1.session.ingest shop).2.verdict := by
  intro requests disk shop
  have idle : (recorded {} requests).1.session.waitList.find? "Shop" = none := by decide +kernel
  exact ⟨idle, second_delivery_changes_nothing {} requests shop idle⟩

end Recorder

end DataTrail
