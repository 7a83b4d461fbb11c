import DataTrail.Proofs.Wakeup

/-! How fresh a written report is. It was surveyed in an earlier program, and of the interfaces that
it read then none has gained an implementor since, because that would have refreshed it. So it is
what a new survey would give, unless a method that it reached through its own record has been
overtaken by a first implementor: nothing looks for that. -/

namespace DataTrail

namespace Program

variable {origin now : Program} {eps : List MethodId} {e m : MethodId}

/-- A complete survey made in `origin`, none of whose interfaces has gained an implementor. -/
structure Stands (origin now : Program) (eps : List MethodId) : Prop where
  mirrored : origin.Mirrored
  grows : origin.Extends now
  known : ∀ m, origin.ReachedFrom eps m → origin.isMissing m = false
  kept : ∀ m, origin.ReachedFrom eps m → origin.dispatch.isImplemented m → ¬origin.Gains now m

theorem Stands.agreeAt (h : origin.Stands now eps) (later : now.Mirrored)
    (reached : origin.ReachedFrom eps m) (kept : ¬origin.Overtaken now m) :
    origin.AgreeAt now m := by
  have known := h.known m reached
  refine h.grows.agreeAt h.mirrored later known fun gains => ?_
  by_cases implemented : origin.dispatch.isImplemented m = true
  · exact h.kept m reached implemented gains
  · rw [Bool.not_eq_true] at implemented
    refine kept ⟨fun unregistered => ?_, implemented,
      (h.grows.isImplemented_iff h.mirrored later).mpr (.inr gains)⟩
    simp [Program.isMissing_iff.mpr ⟨unregistered, implemented⟩] at known

/-- A new survey differs just when a method that was reached has been overtaken. -/
theorem Stands.survey_eq_iff (h : origin.Stands now eps) (later : now.Mirrored) (depth : Nat)
    (name : String) :
    now.survey depth name eps = origin.survey depth name eps ↔
      ∀ m, origin.ReachedFrom eps m → ¬origin.Overtaken now m := by
  constructor
  · rintro same m ⟨e, he, hm⟩ overtaken
    -- The first overtaken method on the way is reached both times, but read as an interface only now.
    obtain ⟨k, diverted⟩ : ∃ k, origin.DivertedAt now e k := by
      rcases hm.clear_or now with clear | ⟨k, diverted, _⟩
      · exact ⟨m, clear, overtaken⟩
      · exact ⟨k, diverted⟩
    have after : now.Reaches e k := h.grows.reaches_of_clear h.mirrored later diverted.clear
    obtain ⟨_, unimplemented, implemented⟩ := diverted.overtaken
    have read : k ∈ (now.survey depth name eps).findings.interfaces :=
      mem_interfaces_survey.mpr ⟨⟨e, he, after⟩, implemented⟩
    rw [same, mem_interfaces_survey, unimplemented] at read
    exact absurd read.2 Bool.false_ne_true
  · intro kept
    exact (survey_congr depth name fun m hm => h.agreeAt later hm (kept m hm)).symm

end Program

theorem Report.latest?_append {kept new : List Report} {n : String} :
    latest? (kept ++ new) n = (latest? new n).or (latest? kept n) := by
  simp [latest?]

namespace Session

variable {s s' : Session} {kept : List Report} {Past : Program → Prop} {name n : String}
  {eps : List MethodId} {verdict : Verdict} {calls : List (String × List MethodId)}
  {results : List (String × Verdict)} {excused : MethodId → Prop}

/-- The last report of the name `n` was surveyed in the program `origin`, and is known as a reader
of its interfaces. -/
structure Backs (origin : Program) (s : Session) (kept : List Report) (n : String)
    (eps : List MethodId) : Prop where
  mirrored : origin.Mirrored
  grows : origin.Extends s.program
  known : ∀ m, origin.ReachedFrom eps m → origin.isMissing m = false
  latest : Report.latest? (kept ++ s.offered) n =
    some (origin.survey s.settings.namespaceDepth n eps).report
  reads : ∀ m, origin.ReachedFrom eps m → origin.dispatch.isImplemented m →
    n ∈ s.readers.getD m ∅

/-- If the report `n` is written, it was surveyed in a past program, and only the interfaces that are
excused have gained an implementor since. -/
def FreshBut (s : Session) (kept : List Report) (Past : Program → Prop) (n : String)
    (excused : MethodId → Prop) : Prop :=
  ∀ eps, s.finalized[n]? = some eps → ∃ origin, Past origin ∧ Backs origin s kept n eps ∧
    ∀ m, origin.ReachedFrom eps m → origin.dispatch.isImplemented m →
      origin.Gains s.program m → excused m

theorem FreshBut.mono {Past' : Program → Prop} {excused' : MethodId → Prop}
    (h : s.FreshBut kept Past n excused) (still : ∀ p, Past p → Past' p)
    (weaker : ∀ m, excused m → excused' m) : s.FreshBut kept Past' n excused' := by
  intro eps written
  obtain ⟨origin, past, backs, gains⟩ := h eps written
  exact ⟨origin, still origin past, backs, fun m hm hi hg => weaker m (gains m hm hi hg)⟩

theorem SameReports.backs {origin : Program} (same : s.SameReports s')
    (grows : s.program.Extends s'.program) (h : Backs origin s kept n eps) :
    Backs origin s' kept n eps where
  mirrored := h.mirrored
  grows := h.grows.trans grows
  known := h.known
  latest := by rw [same.offered, same.settings]; exact h.latest
  reads := by rw [same.readers]; exact h.reads

theorem Quiet.freshBut (q : s.Quiet s') (h : s.FreshBut kept Past n excused) :
    s'.FreshBut kept Past n excused := by
  intro eps written
  rw [q.finalized] at written
  obtain ⟨origin, past, backs, gains⟩ := h eps written
  refine ⟨origin, past, q.backs (q.program ▸ .refl _) backs, ?_⟩
  rw [q.program]
  exact gains

/-- Registration may widen interfaces, and no others have to be excused. -/
theorem Registers.freshBut {fs : List Facts} {done : Registration}
    (registered : s.Registers fs s' done) (h : s.FreshBut kept Past n fun _ => False) :
    s'.FreshBut kept Past n (· ∈ done.widened) := by
  intro eps written
  rw [registered.finalized] at written
  obtain ⟨origin, past, backs, gains⟩ := h eps written
  refine ⟨origin, past, registered.backs registered.extends backs, fun m hm hi hg => ?_⟩
  refine (registered.mem_widened m).mpr ?_
  rcases (Program.gains_trans backs.grows registered.extends).mp hg with old | new
  · exact (gains m hm hi old).elim
  · exact new

theorem Resolves.latest?_of_ne (resolved : s.Resolves name eps verdict s') (other : name ≠ n) :
    Report.latest? (kept ++ s'.offered) n = Report.latest? (kept ++ s.offered) n := by
  have named : verdict.report.name = name := resolved.report ▸ rfl
  rw [resolved.offered, ← List.append_assoc]
  split
  · rw [Report.latest?_append]
    simp [Report.latest?, named, other]
  · rw [List.append_nil]

theorem Resolves.latest?_self (resolved : s.Resolves n eps verdict s')
    (complete : verdict.isFinalized) :
    Report.latest? (kept ++ s'.offered) n = some (s.survey n eps).report := by
  rw [resolved.offered, if_pos complete, ← List.append_assoc, Report.latest?_append, resolved.report]
  simp [Report.latest?, survey, Program.survey, Report.ofPurposes]

theorem Resolves.freshBut_of_ne (resolved : s.Resolves name eps verdict s') (other : name ≠ n)
    (h : s.FreshBut kept Past n excused) : s'.FreshBut kept Past n excused := by
  intro eps' written
  rw [resolved.finalized, if_neg other] at written
  obtain ⟨origin, past, backs, gains⟩ := h eps' written
  refine ⟨origin, past, ?_, by rw [resolved.program]; exact gains⟩
  exact {
    mirrored := backs.mirrored
    grows := resolved.program ▸ backs.grows
    known := backs.known
    latest := by rw [resolved.latest?_of_ne other, resolved.settings]; exact backs.latest
    reads := fun m hm hi => (resolved.readers m n).mpr (.inl (backs.reads m hm hi)) }

/-- A report that has just been resolved needs no excuse. -/
theorem Resolves.freshBut_self (resolved : s.Resolves n eps verdict s')
    (mirrored : s.program.Mirrored) (present : Past s.program) :
    s'.FreshBut kept Past n fun _ => False := by
  intro eps' written
  rw [resolved.finalized, if_pos rfl] at written
  obtain ⟨complete, rfl⟩ : verdict.isFinalized = true ∧ eps = eps' := by simpa using written
  have known := resolved.fits.finalized_iff.mp complete
  refine ⟨s.program, present, ?_, ?_⟩
  · exact {
      mirrored
      grows := resolved.program ▸ .refl _
      known := by
        rintro m ⟨e, he, hm⟩
        rw [← Bool.not_eq_true]
        exact fun missing => known m ⟨e, he, hm, missing⟩
      latest := by
        rw [resolved.settings]
        exact resolved.latest?_self complete
      reads := fun m hm hi => (resolved.readers m n).mpr
        (.inr ⟨complete, Program.mem_interfaces_survey.mpr ⟨hm, hi⟩, rfl⟩) }
  · intro m _ _ gains
    rw [resolved.program] at gains
    exact Program.not_gains_self _ m gains

theorem ResolvesAll.freshBut (all : s.ResolvesAll calls results s') (mirrored : s.program.Mirrored)
    (present : Past s.program) (h : s.FreshBut kept Past n excused) :
    s'.FreshBut kept Past n fun m => n ∉ calls.map (·.1) ∧ excused m := by
  induction all generalizing excused with
  | done quiet => exact (quiet.freshBut h).mono (fun _ => id) fun m hm => ⟨List.not_mem_nil, hm⟩
  | @next first second last name eps verdict calls results step rest ih =>
    have first : second.FreshBut kept Past n fun m => name ≠ n ∧ excused m := by
      by_cases same : name = n
      · subst same
        exact (step.freshBut_self mirrored present).mono (fun _ => id) fun m impossible =>
          impossible.elim
      · exact (step.freshBut_of_ne same h).mono (fun _ => id) fun m hm => ⟨same, hm⟩
    refine (ih (step.program ▸ mirrored) (step.program ▸ present) first).mono (fun _ => id) ?_
    rintro m ⟨others, other, hm⟩
    refine ⟨?_, hm⟩
    rw [List.map_cons, List.mem_cons]
    exact fun mem => mem.elim (fun same => other same.symm) others

theorem FreshBut.releasing (h : s.FreshBut kept Past n excused) (arrived : List MethodId) :
    (s.releasing arrived).FreshBut kept Past n excused := by
  intro eps written
  obtain ⟨origin, past, backs, gains⟩ := h eps written
  exact ⟨origin, past, ⟨backs.mirrored, backs.grows, backs.known, backs.latest, backs.reads⟩, gains⟩

/-- Whatever read a widened interface is resolved again, so nothing has to be excused in the end. -/
theorem Absorbs.freshBut {u : SourceUnit} {outcome : Outcome}
    (absorbed : s.Absorbs u s' outcome) (sound : s.Sound) (present : Past s'.program) (h : s.FreshBut kept Past n fun _ => False) :
    s'.FreshBut kept Past n fun _ => False := by
  have same := absorbed.program
  obtain ⟨done, s₁, s₂, s₃, again, registered, own, retried, refreshed, mem_again⟩ := absorbed
  rw [same, ← registered.program] at present
  have mirrored : s₁.program.Mirrored := registered.program ▸ sound.mirrored.foldl_register _
  have at₂ := own.freshBut mirrored present (registered.freshBut h)
  have program₂ : (s₂.releasing done.announced).program = s₁.program := own.program
  have at₃ := retried.freshBut (program₂ ▸ mirrored) (program₂ ▸ present)
    (at₂.releasing done.announced)
  have program₃ : s₃.program = s₁.program := retried.program.trans program₂
  -- A report that still needs its excuse reads a widened interface and was not resolved so far.
  have settled : s₃.FreshBut kept Past n fun _ => n ∈ again.map (·.1) := by
    intro eps written
    obtain ⟨origin, past, backs, gains⟩ := at₃ eps written
    refine ⟨origin, past, backs, fun m hm hi hg => ?_⟩
    obtain ⟨notRetried, notOwn, widened⟩ := gains m hm hi hg
    have unsettled : n ∉ u.calls.map (·.1) ++ (s₂.released done.announced).map (·.1) := by
      rw [List.mem_append]
      exact fun mem => mem.elim notOwn notRetried
    exact List.mem_map_of_mem (f := (·.1))
      ((mem_again n eps).mpr ⟨⟨unsettled, m, widened, backs.reads m hm hi⟩, written⟩)
  exact (refreshed.freshBut (program₃ ▸ mirrored) (program₃ ▸ present) settled).mono
    (fun _ => id) fun m excuse => excuse.1 excuse.2

theorem FreshBut.clearJournal (h : s.FreshBut kept Past n excused) :
    s.clearJournal.FreshBut (kept ++ s.offered) Past n excused := by
  intro eps written
  obtain ⟨origin, past, backs, gains⟩ := h eps written
  have latest : Report.latest? (kept ++ s.offered ++ s.clearJournal.offered) n =
      some (origin.survey s.settings.namespaceDepth n eps).report := by
    rw [show s.clearJournal.offered = [] from rfl, List.append_nil]
    exact backs.latest
  exact ⟨origin, past, ⟨backs.mirrored, backs.grows, backs.known, latest, backs.reads⟩, gains⟩

/-- The program after some of the units, taken in from the first on. -/
def Earlier (settings : Settings) (units : List SourceUnit) (p : Program) : Prop :=
  ∃ before later, units = before ++ later ∧
    p = (after settings (before.map .ingest)).program

theorem earlier_append {settings : Settings} {units : List SourceUnit} {p : Program}
    (h : Earlier settings units p) (u : SourceUnit) : Earlier settings (units ++ [u]) p := by
  obtain ⟨before, later, rfl, rfl⟩ := h
  exact ⟨before, later ++ [u], List.append_assoc _ _ _, rfl⟩

end Session

namespace Recorder

open Session

variable (settings : Settings) (units : List SourceUnit)

theorem freshBut_recorded (n : String) :
    (recorded settings (units.map .ingest)).1.session.FreshBut
      (recorded settings (units.map .ingest)).2 (Earlier settings units) n fun _ => False := by
  induction units using List.reverseRecOn with
  | nil =>
    intro eps written
    have none : (recorded settings []).1.session.finalized[n]? = none :=
      Std.ExtTreeMap.getElem?_empty
    simp [none] at written
  | append_singleton units u ih =>
    have step := recorded_append settings (units.map .ingest) (.ingest u)
    rw [List.map_append, List.map_cons, List.map_nil, step.1, step.2]
    rw [session_recorded] at ih ⊢
    have before := ih.mono (fun p h => earlier_append h u) fun _ => id
    have present : Earlier settings (units ++ [u])
        ((after settings (units.map .ingest)).ingest u).1.program := by
      refine ⟨units ++ [u], [], (List.append_nil _).symm, ?_⟩
      rw [after_ingest]
      rfl
    refine FreshBut.clearJournal ?_
    rcases ingest_after_cases settings units u with ⟨_, skipped⟩ | ⟨_, absorbed⟩
    · exact skipped.freshBut before
    · exact absorbed.freshBut (sound_after settings _) present before

theorem stands_recorded {n : String} {eps : List MethodId}
    (written : (recorded settings (units.map .ingest)).1.session.finalized[n]? = some eps) :
    ∃ before later, units = before ++ later ∧
      Report.latest? (recorded settings (units.map .ingest)).2 n =
        some ((after settings (before.map .ingest)).program.survey
          settings.namespaceDepth n eps).report ∧
      (after settings (before.map .ingest)).program.Stands
        (after settings (units.map .ingest)).program eps := by
  obtain ⟨origin, ⟨before, later, split, rfl⟩, backs, gains⟩ :=
    freshBut_recorded settings units n eps written
  have latest := backs.latest
  have grows := backs.grows
  rw [session_recorded] at grows gains latest
  rw [offered_after, settings_after, List.append_nil] at latest
  exact ⟨before, later, split, latest, backs.mirrored, grows, backs.known, gains⟩

/-- A written report is the complete survey of its entry points at an earlier point of the run. A
survey made now is the same just when no method that was reached then has been overtaken. -/
theorem written_report_origin (n : String) (eps : List MethodId)
    (written : (recorded settings (units.map .ingest)).1.session.finalized[n]? = some eps) :
    ∃ before later, units = before ++ later ∧
      let origin := (after settings (before.map .ingest)).program
      let now := (recorded settings (units.map .ingest)).1.session.program
      let depth := settings.namespaceDepth
      Report.latest? (recorded settings (units.map .ingest)).2 n =
          some (origin.survey depth n eps).report ∧
        (origin.survey depth n eps).findings.isComplete ∧
        (now.survey depth n eps = origin.survey depth n eps ↔
          ∀ m, origin.ReachedFrom eps m → ¬origin.Overtaken now m) := by
  obtain ⟨before, later, split, latest, stands⟩ := stands_recorded settings units written
  refine ⟨before, later, split, latest, Program.isComplete_survey.mpr stands.known, ?_⟩
  rw [session_recorded]
  exact stands.survey_eq_iff (sound_after settings (units.map .ingest)).mirrored _ n

end Recorder

namespace Sample

/-- A page that brings the base method that it runs. -/
def selfContained : SourceUnit where
  name := "Page"
  methods :=
    [(Facts.bare (method "Page" "show")).asEntryPoint.calling (method "Base" "run"),
      (Facts.bare (method "Base" "run")).handling "Email"]

end Sample

open Sample in
set_option maxRecDepth 10000 in
/-- A report that waited for an implementor and was written again for a second one. -/
theorem Recorder.written_report_origin_refreshed :
    let units := [caller "Page" (method "Store" "load"),
      implementor "Disk" "Email" (method "Store" "load"),
      implementor "Cloud" "Phone" (method "Store" "load")]
    let eps := [method "Page" "show"]
    (recorded {} (units.map .ingest)).1.session.finalized["Page"]? = some eps ∧
      ∃ before later, units = before ++ later ∧
        let origin := (Session.after {} (before.map .ingest)).program
        let now := (recorded {} (units.map .ingest)).1.session.program
        Report.latest? (recorded {} (units.map .ingest)).2 "Page" =
            some (origin.survey 4 "Page" eps).report ∧
          (origin.survey 4 "Page" eps).findings.isComplete ∧
          (now.survey 4 "Page" eps = origin.survey 4 "Page" eps ↔
            ∀ m, origin.ReachedFrom eps m → ¬origin.Overtaken now m) := by
  intro units eps
  have written : (recorded {} (units.map .ingest)).1.session.finalized["Page"]? = some eps := by
    decide +kernel
  exact ⟨written, written_report_origin {} units "Page" eps written⟩

open Sample in
set_option maxRecDepth 10000 in
/-- The first implementor of a base method that has a record leaves the written report as it is. -/
theorem Recorder.not_every_written_report_is_fresh :
    ¬∀ (settings : Settings) (units : List SourceUnit) (n : String) (eps : List MethodId),
      (recorded settings (units.map .ingest)).1.session.finalized[n]? = some eps →
        let again := (recorded settings (units.map .ingest)).1.session.survey n eps
        again.findings.isComplete ∧
          Report.latest? (recorded settings (units.map .ingest)).2 n = some again.report := by
  intro fresh
  obtain ⟨_, same⟩ := fresh {} [selfContained, implementor "Other" "Phone" (method "Base" "run")]
    "Page" [method "Page" "show"] (by decide +kernel)
  have data := congrArg (Option.map (·.data)) same
  revert data
  decide +kernel

end DataTrail
