import DataTrail.Proofs.Wakeup

/-! Where a report stands: it waits, it is blocked, or it is written. Taking in a unit touches a
report in at most three places, and each of them is followed here for one name. A blocked report
stands nowhere else, so it is blocked for good unless it is asked for again. A report that waits may
come to be written beside that: its entry stays on the wait-list when another unit of its name is
complete. -/

namespace DataTrail

namespace Sample

/-- The page once more, with a help text that calls nothing. -/
def help : SourceUnit where
  name := "Page"
  methods := [(Facts.bare (method "Page" "help")).asEntryPoint.handling "Email"]

/-- A method of another namespace. -/
def mailer : MethodId := { owner := "com.mail.api.core.Mailer", name := "send" }

/-- The page once more, with an entry point that sends mails. -/
def mailing : SourceUnit where
  name := "Page"
  methods := [(Facts.bare (method "Page" "mail")).asEntryPoint.calling mailer]

end Sample

namespace Session

variable {s s' t : Session} {name n : String} {eps : List MethodId} {verdict : Verdict}
  {calls : List (String × List MethodId)} {results : List (String × Verdict)} {u : SourceUnit}
  {outcome : Outcome} {d : Deferred}

section OneName

theorem SameAt.deferredBy (same : s.SameAt t n) (program : t.program = s.program) :
    t.deferredBy n eps verdict = s.deferredBy n eps verdict := by
  cases verdict <;> simp only [Session.deferredBy, WaitList.deferral, same.waitList, program]

/-- The report `n` was resolved once, with the verdict that the program calls for, and stands
accordingly. -/
structure SettlesAt (s : Session) (n : String) (eps : List MethodId) (verdict : Verdict)
    (s' : Session) : Prop where
  fits : verdict.Fits s.program s.settings.namespaceDepth eps
  finalized : s'.finalized[n]? = if verdict.isFinalized then some eps else none
  blocked : s'.blocked[n]? = blockedBy n eps verdict
  waitList : s'.waitList.find? n = s.deferredBy n eps verdict

theorem Resolves.settlesAt (resolved : s.Resolves n eps verdict s') :
    s.SettlesAt n eps verdict s' where
  fits := resolved.fits
  finalized := by rw [resolved.finalized, if_pos rfl]
  blocked := by rw [resolved.blocked, if_pos rfl]
  waitList := by rw [resolved.waitList, if_pos rfl]

theorem ResolvesAll.settlesAt (all : s.ResolvesAll calls results s')
    (distinct : (calls.map (·.1)).Nodup) (call : (n, eps) ∈ calls) :
    ∃ verdict, (n, verdict) ∈ results ∧ s.SettlesAt n eps verdict s' := by
  induction all with
  | done => exact absurd call List.not_mem_nil
  | @next first second last name eps₁ verdict calls results step rest ih =>
    rw [List.map_cons, List.nodup_cons] at distinct
    -- The names are distinct, so of all resolutions one concerns `n`, and the others leave it alone.
    rcases List.mem_cons.mp call with same | later
    · obtain ⟨rfl, rfl⟩ := Prod.mk.inj same
      have now := step.settlesAt
      have kept := rest.sameAt distinct.1
      exact ⟨verdict, List.mem_cons_self, now.fits, kept.finalized.trans now.finalized,
        kept.blocked.trans now.blocked, kept.waitList.trans now.waitList⟩
    · have other : name ≠ n := by
        rintro rfl
        exact distinct.1 (List.mem_map_of_mem (f := (·.1)) later)
      obtain ⟨verdict', listed, settled⟩ := ih distinct.2 later
      refine ⟨verdict', List.mem_cons_of_mem _ listed, ?_, settled.finalized, settled.blocked, ?_⟩
      · rw [← step.program, ← step.settings]
        exact settled.fits
      · rw [settled.waitList, (step.sameAt other).deferredBy step.program]

theorem ResolvesAll.mem_offered (all : s.ResolvesAll calls results s') {report : Report}
    (h : report ∈ s'.offered) : report ∈ s.offered ∨ report.name ∈ calls.map (·.1) := by
  induction all with
  | done quiet => exact .inl (quiet.offered ▸ h)
  | @next first second last name eps verdict calls results step rest ih =>
    rw [List.map_cons, List.mem_cons]
    rcases ih h with earlier | later
    · rw [step.offered, List.mem_append] at earlier
      rcases earlier with earlier | own
      · exact .inl earlier
      · have named : verdict.report.name = name := step.report ▸ rfl
        split at own
        · exact .inr (.inl (List.mem_singleton.mp own ▸ named))
        · exact absurd own List.not_mem_nil
    · exact .inr (.inr later)

end OneName

/-- Holds after all requests: what is true where nothing waits or is blocked, and stays true while
the report `n` is left alone, a report is resolved, and entries go off the wait-list. -/
theorem holds_after {P : Session → Prop} (n : String)
    (same : ∀ {a b : Session}, a.SameAt b n → P a → P b)
    (resolve : ∀ {a b : Session} {name eps verdict}, a.Resolves name eps verdict b → P a → P b)
    (release : ∀ {a : Session} (arrived : List MethodId), a.waitList.Valid → P a →
      P (a.releasing arrived))
    (empty : ∀ {a : Session}, a.waitList = .empty → a.blocked = ∅ → P a)
    (settings : Settings) (requests : List Request) : P (after settings requests) := by
  induction requests using List.reverseRecOn with
  | nil => exact empty rfl rfl
  | append_singleton requests request ih =>
    have sound := sound_after settings requests
    have performed {a : Session} : P a → P a.clearJournal := same ⟨rfl, rfl, rfl⟩
    rw [after_append]
    cases request with
    | ingest unit =>
      apply performed
      rcases ingest_cases sound.mirrored unit with ⟨_, skipped⟩ | ⟨_, absorbed⟩
      · exact same (skipped.sameAt n) ih
      · exact absorbed.preserves sound (fun registered => same (registered.sameAt n))
          (fun quiet => same (quiet.sameAt n)) resolve release ih
    | handle name eps => exact performed (resolve (handle_resolves _ name eps) ih)
    | finish =>
      obtain ⟨journal, eq⟩ := finish_eq (after settings requests)
      rw [Session.serve, answer, eq]
      exact empty rfl rfl

section Blocked

/-- If the report `n` is blocked, it neither waits nor is written. -/
def BlockedAlone (s : Session) (n : String) : Prop :=
  s.blocked[n]? ≠ none → s.waitList.find? n = none ∧ s.finalized[n]? = none

theorem SameAt.blockedAlone (same : s.SameAt s' n) (h : s.BlockedAlone n) : s'.BlockedAlone n := by
  unfold BlockedAlone
  rw [same.blocked, same.waitList, same.finalized]
  exact h

theorem Resolves.blockedAlone (resolved : s.Resolves name eps verdict s')
    (h : s.BlockedAlone n) : s'.BlockedAlone n := by
  by_cases other : name = n
  · subst other
    have settled := resolved.settlesAt
    intro blocked
    cases verdict with
    | blocked part external => exact ⟨settled.waitList, settled.finalized⟩
    | pending part waitingFor => exact absurd settled.blocked blocked
    | finalized report => exact absurd settled.blocked blocked
  · exact (resolved.sameAt other).blockedAlone h

theorem BlockedAlone.releasing (h : s.BlockedAlone n) (arrived : List MethodId)
    (valid : s.waitList.Valid) : (s.releasing arrived).BlockedAlone n := by
  intro blocked
  obtain ⟨idle, unwritten⟩ := h blocked
  refine ⟨?_, unwritten⟩
  rw [Session.releasing, WaitList.find?_releaseEach valid, idle, Option.bind_none]

theorem blockedAlone_after (settings : Settings) (requests : List Request) (n : String) :
    (after settings requests).BlockedAlone n := by
  refine holds_after n SameAt.blockedAlone Resolves.blockedAlone ?_ ?_ settings requests
  · exact fun arrived valid h => h.releasing arrived valid
  · intro a _ empty blocked
    exact absurd (by rw [empty, Std.ExtTreeMap.getElem?_empty]) blocked

theorem named_blocked_after (settings : Settings) (requests : List Request) (n : String) :
    ∀ d, (after settings requests).blocked[n]? = some d → d.name = n := by
  refine holds_after (P := fun s => ∀ d, s.blocked[n]? = some d → d.name = n) n ?_ ?_ ?_ ?_
    settings requests
  · intro a b same h
    rwa [same.blocked]
  · intro a b name eps verdict resolved h d blocked
    rw [resolved.blocked] at blocked
    split at blocked
    · cases verdict with
      | blocked part external =>
        obtain rfl := Option.some_inj.mp blocked
        assumption
      | pending part waitingFor => simp [blockedBy] at blocked
      | finalized report => simp [blockedBy] at blocked
    · exact h d blocked
  · exact fun _ _ h => h
  · intro a _ empty d blocked
    simp [empty] at blocked

/-- A unit passes the report `n` by: it does not change how the report stands, does not resolve it,
and hands over no report of that name. -/
structure Passes (s : Session) (n : String) (s' : Session) (outcome : Outcome) : Prop where
  sameAt : s.SameAt s' n
  retried : n ∉ outcome.retried.map (·.1)
  refreshed : n ∉ outcome.refreshed.map (·.1)
  offered : ∀ report ∈ s'.offered, report.name = n → report ∈ s.offered

/-- A unit passes by what it does not ask for and what neither waits nor is written. -/
theorem Absorbs.passes (absorbed : s.Absorbs u s' outcome) (sound : s.Sound)
    (other : n ∉ u.calls.map (·.1)) (idle : s.waitList.find? n = none)
    (unwritten : s.finalized[n]? = none) : s.Passes n s' outcome := by
  obtain ⟨done, s₁, s₂, s₃, again, registered, own, retried, refreshed, mem_again, _⟩ := absorbed
  have valid : s₂.waitList.Valid := own.valid (registered.waitList ▸ sound.valid)
  have at₂ : s.SameAt s₂ n := (registered.sameAt n).trans (own.sameAt other)
  have idle₂ : s₂.waitList.find? n = none := at₂.waitList.trans idle
  have releasing : s₂.SameAt (s₂.releasing done.announced) n := by
    refine ⟨rfl, rfl, ?_⟩
    rw [Session.releasing, WaitList.find?_releaseEach valid, idle₂, Option.bind_none]
  have notReleased : n ∉ (s₂.released done.announced).map (·.1) := by
    intro listed
    obtain ⟨d, waits, _⟩ := (mem_released_names valid).mp listed
    simp [waits] at idle₂
  have at₃ : s.SameAt s₃ n := (at₂.trans releasing).trans (retried.sameAt notReleased)
  have notAgain : n ∉ again.map (·.1) := by
    intro listed
    obtain ⟨⟨_, eps⟩, call, rfl⟩ := List.mem_map.mp listed
    have written := ((mem_again _ eps).mp call).2
    rw [at₃.finalized, unwritten] at written
    exact absurd written.symm (Option.some_ne_none eps)
  refine ⟨at₃.trans (refreshed.sameAt notAgain), ?_, ?_, ?_⟩
  · rw [retried.names]
    exact notReleased
  · rw [refreshed.names]
    exact notAgain
  · rintro report h rfl
    have h₃ := (refreshed.mem_offered h).resolve_right notAgain
    have h₂ : report ∈ s₂.offered := (retried.mem_offered h₃).resolve_right notReleased
    exact registered.offered ▸ (own.mem_offered h₂).resolve_right other

theorem passes_of_idle (sound : s.Sound) (idle : s.waitList.find? n = none)
    (unwritten : s.finalized[n]? = none)
    (other : s.settings.skipsUnit u.name = true ∨ u.entryPoints = [] ∨ u.name ≠ n) :
    s.Passes n (s.ingest u).1 (s.ingest u).2 := by
  rcases ingest_cases sound.mirrored u with ⟨skips, skipped⟩ | ⟨takes, absorbed⟩
  · refine ⟨skipped.sameAt n, ?_, ?_, fun report h _ => skipped.offered ▸ h⟩
    · rw [ingest_skipped skips]
      exact List.not_mem_nil
    · rw [ingest_skipped skips]
      exact List.not_mem_nil
  · refine absorbed.passes sound ?_ idle unwritten
    intro asked
    obtain ⟨asks, named⟩ := SourceUnit.mem_names_calls.mp asked
    rcases other with skips | none | other
    · simp [takes] at skips
    · exact asks none
    · exact other named

theorem passes_of_blocked {settings : Settings} {requests : List Request}
    (blocked : (after settings requests).blocked[n]? = some d)
    (other : settings.skipsUnit u.name = true ∨ u.entryPoints = [] ∨ u.name ≠ n) :
    (after settings requests).Passes n ((after settings requests).ingest u).1
      ((after settings requests).ingest u).2 := by
  obtain ⟨idle, unwritten⟩ := blockedAlone_after settings requests n (by simp [blocked])
  refine passes_of_idle (sound_after settings requests) idle unwritten ?_
  rwa [settings_after]

end Blocked

section Torn

/-- The report `n` waits, and is written all the same. -/
def Torn (s : Session) (n : String) : Prop :=
  s.waitList.find? n ≠ none ∧ s.finalized[n]? ≠ none

/-- The unit `u` is taken in and brings a complete report `n`, while what is on the wait-list under
that name still lacks a method; `now` is the program with the unit. -/
structure Splits (s : Session) (u : SourceUnit) (now : Program) (n : String) : Prop where
  takes : s.settings.skipsUnit u.name = false
  named : u.name = n
  asks : u.entryPoints ≠ []
  complete : ∀ m, ¬now.Lacks u.entryPoints m
  waits : ∃ d, s.waitList.find? n = some d ∧ ∃ m ∈ d.waitingFor, now.isMissing m

theorem SameAt.torn_iff (same : s.SameAt s' n) : s'.Torn n ↔ s.Torn n := by
  rw [Torn, Torn, same.waitList, same.finalized]

theorem torn_releasing {arrived : List MethodId} (valid : s.waitList.Valid) :
    (s.releasing arrived).Torn n ↔ s.finalized[n]? ≠ none ∧
      ∃ d, s.waitList.find? n = some d ∧ d.awaiting? arrived ≠ none := by
  rw [Torn, and_comm, releasing, WaitList.find?_releaseEach valid]
  cases s.waitList.find? n <;> simp

theorem SettlesAt.not_torn (settled : s.SettlesAt n eps verdict s')
    (idle : s.waitList.find? n = none) : ¬s'.Torn n := by
  rintro ⟨waits, written⟩
  rw [settled.waitList] at waits
  rw [settled.finalized] at written
  cases verdict with
  | finalized report => exact waits idle
  | pending part waitingFor => exact written rfl
  | blocked part external => exact written rfl

theorem ResolvesAll.not_torn (all : s.ResolvesAll calls results s')
    (distinct : (calls.map (·.1)).Nodup) (whole : ¬s.Torn n)
    (idle : n ∈ calls.map (·.1) → s.waitList.find? n = none) : ¬s'.Torn n := by
  by_cases listed : n ∈ calls.map (·.1)
  · obtain ⟨⟨_, eps⟩, call, rfl⟩ := List.mem_map.mp listed
    obtain ⟨verdict, _, settled⟩ := all.settlesAt distinct call
    exact settled.not_torn (idle listed)
  · rwa [(all.sameAt listed).torn_iff]

theorem SettlesAt.written_iff (settled : s.SettlesAt n eps verdict s') :
    s'.finalized[n]? ≠ none ↔ ∀ m, ¬s.program.Lacks eps m := by
  rw [settled.finalized, ← settled.fits.finalized_iff]
  cases verdict.isFinalized <;> simp

/-- A report that is written leaves what waits under its name as it is. -/
theorem SettlesAt.waitList_of_written (settled : s.SettlesAt n eps verdict s')
    (written : s'.finalized[n]? ≠ none) : s'.waitList.find? n = s.waitList.find? n := by
  rw [settled.waitList]
  rw [settled.finalized] at written
  cases verdict with
  | finalized report => rfl
  | pending part waitingFor => exact absurd rfl written
  | blocked part external => exact absurd rfl written

/-- A deferred report is not released if it waits for a method that is missing still. -/
theorem Registers.awaiting?_ne_none_iff {fs : List Facts} {done : Registration}
    (registered : s.Registers fs s' done) (sound : s.Sound)
    (waits : s.waitList.find? n = some d) :
    d.awaiting? done.announced ≠ none ↔ ∃ m ∈ d.waitingFor, s'.program.isMissing m := by
  rw [Ne, Deferred.awaiting?_eq_none, not_forall]
  refine exists_congr fun m => ?_
  rw [Classical.not_imp]
  refine and_congr_right fun hm => ?_
  have missing := (sound.awaits n d waits m hm).resolve_right List.not_mem_nil
  rw [registered.mem_announced_iff sound.mirrored missing, Bool.not_eq_false]

/-- Right after a unit's own report, the unit has torn what it splits. -/
theorem torn_own_iff {s₁ s₂ : Session} {done : Registration}
    (registered : s.Registers u.bodies s₁ done) (own : s₁.ResolvesAll u.calls results s₂)
    (sound : s.Sound) (takes : s.settings.skipsUnit u.name = false) (whole : ¬s.Torn n) :
    (s₂.releasing done.announced).Torn n ↔ s.Splits u s₁.program n := by
  have valid : s₂.waitList.Valid := own.valid (registered.waitList ▸ sound.valid)
  rw [torn_releasing valid]
  by_cases asks : n ∈ u.calls.map (·.1)
  · obtain ⟨stated, named⟩ := SourceUnit.mem_names_calls.mp asks
    obtain ⟨verdict, _, settled⟩ := own.settlesAt u.nodup_calls
      (SourceUnit.mem_calls.mpr ⟨stated, named.symm, rfl⟩)
    constructor
    · rintro ⟨written, d, waits, left⟩
      rw [settled.waitList_of_written written, registered.waitList] at waits
      exact ⟨takes, named, stated, settled.written_iff.mp written, d, waits,
        (registered.awaiting?_ne_none_iff sound waits).mp left⟩
    · rintro ⟨_, _, _, complete, d, waits, missing⟩
      have written := settled.written_iff.mpr complete
      refine ⟨written, d, ?_, (registered.awaiting?_ne_none_iff sound waits).mpr missing⟩
      rw [settled.waitList_of_written written, registered.waitList, waits]
  · -- What the unit does not ask for is as it was.
    have same : s.SameAt s₂ n := (registered.sameAt n).trans (own.sameAt asks)
    constructor
    · rintro ⟨written, d, waits, _⟩
      exact absurd (same.torn_iff.mp ⟨by simp [waits], written⟩) whole
    · intro splits
      exact absurd (SourceUnit.mem_names_calls.mpr ⟨splits.asks, splits.named⟩) asks

/-- A report that was in one place is torn by a unit just when the unit splits it. -/
theorem Absorbs.torn_iff (absorbed : s.Absorbs u s' outcome) (sound : s.Sound)
    (takes : s.settings.skipsUnit u.name = false) (whole : ¬s.Torn n) :
    s'.Torn n ↔ s.Splits u s'.program n := by
  have program := absorbed.program
  obtain ⟨done, s₁, s₂, s₃, again, registered, own, retried, refreshed, mem_again, increasing⟩ :=
    absorbed
  rw [program, ← registered.program, ← torn_own_iff registered own sound takes whole]
  have valid : s₂.waitList.Valid := own.valid (registered.waitList ▸ sound.valid)
  have written : n ∈ again.map (·.1) → n ∉ u.calls.map (·.1) ∧ s₃.finalized[n]? ≠ none := by
    intro listed
    obtain ⟨⟨_, eps⟩, call, rfl⟩ := List.mem_map.mp listed
    obtain ⟨⟨unsettled, _⟩, written⟩ := (mem_again _ eps).mp call
    exact ⟨fun asked => unsettled (List.mem_append_left _ asked), by simp [written]⟩
  constructor
  · -- A report in one place does not wait when it is tried or written again.
    contrapose
    intro whole₂
    have whole₃ := retried.not_torn (nodup_released valid _) whole₂ (find?_releasing_of_released valid)
    refine refreshed.not_torn increasing.nodup whole₃ fun listed => ?_
    by_contra waits
    exact whole₃ ⟨waits, (written listed).2⟩
  · intro torn
    have notReleased : n ∉ (s₂.released done.announced).map (·.1) := fun listed =>
      torn.1 (find?_releasing_of_released valid listed)
    have asked := (torn_own_iff registered own sound takes whole).mp torn
    have notAgain : n ∉ again.map (·.1) := fun listed =>
      (written listed).1 (SourceUnit.mem_names_calls.mpr ⟨asked.asks, asked.named⟩)
    rwa [(refreshed.sameAt notAgain).torn_iff, (retried.sameAt notReleased).torn_iff]

theorem torn_after_iff {settings : Settings} {units : List SourceUnit}
    (whole : ¬(after settings (units.map .ingest)).Torn n) (u : SourceUnit) :
    (after settings ((units ++ [u]).map .ingest)).Torn n ↔
      (after settings (units.map .ingest)).Splits u
        (after settings ((units ++ [u]).map .ingest)).program n := by
  have sound := sound_after settings (units.map .ingest)
  rw [after_ingest]
  rcases ingest_cases sound.mirrored u with ⟨skips, skipped⟩ | ⟨takes, absorbed⟩
  · refine iff_of_false ((skipped.sameAt n).torn_iff.not.mpr whole) fun splits => ?_
    simp [splits.takes] at skips
  · exact absorbed.torn_iff sound takes whole

/-- After any units a blocked report stands nowhere else. A report does not wait and stand written
at once as long as no unit splits it, and no longer. -/
theorem stands_once_iff_never_split (settings : Settings) (units : List SourceUnit) (n : String) :
    (after settings (units.map .ingest)).BlockedAlone n ∧
      ((∀ before, before <+: units → ¬(after settings (before.map .ingest)).Torn n) ↔
        ∀ before u, before ++ [u] <+: units → ¬(after settings (before.map .ingest)).Splits u
          (after settings ((before ++ [u]).map .ingest)).program n) := by
  refine ⟨blockedAlone_after settings _ n, ?_⟩
  induction units using List.reverseRecOn with
  | nil =>
    refine iff_of_true (fun before start => ?_) fun before u impossible => ?_
    · rw [List.prefix_nil.mp start]
      exact fun torn => torn.2 Std.ExtTreeMap.getElem?_empty
    · simp at impossible
  | append_singleton units u ih =>
    simp only [List.prefix_concat_iff, or_imp, forall_and, forall_eq, List.append_singleton_inj,
      and_imp, ih]
    refine and_congr_left fun earlier => ?_
    have whole := ih.mpr earlier units (List.prefix_refl units)
    rw [torn_after_iff whole u]
    constructor
    · rintro last before v rfl rfl
      exact last
    · exact fun last => last units u rfl rfl

end Torn

end Session

open Sample in
set_option maxRecDepth 10000 in
/-- A page waits, and a second unit of its name is complete: the report is written and waits on. -/
theorem Session.not_every_report_stands_once :
    ¬∀ (settings : Settings) (units : List SourceUnit) (n : String),
      let s := after settings (units.map .ingest)
      (s.waitList.find? n = none ∨ s.blocked[n]? = none) ∧
        (s.waitList.find? n = none ∨ s.finalized[n]? = none) ∧
        (s.blocked[n]? = none ∨ s.finalized[n]? = none) := by
  intro disjoint
  have once := (disjoint {} [page, help] "Page").2.1
  revert once
  decide +kernel

namespace Recorder

open Session

/-- A report that is blocked stays so, with the same entry points and missing methods, is not
resolved again and not written, whatever units are taken in that do not ask for it. -/
theorem blocked_for_good (settings : Settings) (requests : List Request) (units : List SourceUnit)
    (n : String) (d : Deferred)
    (blocked : (recorded settings requests).1.session.blocked[n]? = some d)
    (others : ∀ u ∈ units,
      settings.skipsUnit u.name = true ∨ u.entryPoints = [] ∨ u.name ≠ n) :
    let before := recorded settings requests
    let now := recorded settings (requests ++ units.map .ingest)
    now.1.session.blocked[n]? = some d ∧
      (∃ new, now.2 = before.2 ++ new ∧ ∀ report ∈ new, report.name ≠ n) ∧
      ∀ outcome ∈ before.1.session.outcomes units,
        n ∉ outcome.retried.map (·.1) ∧ n ∉ outcome.refreshed.map (·.1) := by
  induction units generalizing requests with
  | nil =>
    simp only [List.map_nil, List.append_nil, outcomes]
    exact ⟨blocked, ⟨[], by simp⟩, by simp⟩
  | cons u rest ih =>
    have session : (recorded settings (requests ++ [Request.ingest u])).1.session =
        (after settings requests).serve (.ingest u) := by
      rw [session_recorded, after_append]
    have kept := (recorded_append settings requests (.ingest u)).2
    rw [session_recorded] at blocked kept
    have passes := passes_of_blocked blocked (others u List.mem_cons_self)
    have blocked' :
        (recorded settings (requests ++ [Request.ingest u])).1.session.blocked[n]? = some d := by
      rw [session]
      exact passes.sameAt.blocked.trans blocked
    obtain ⟨stays, ⟨new, written, named⟩, later⟩ :=
      ih (requests ++ [Request.ingest u]) blocked' fun v hv => others v (List.mem_cons_of_mem u hv)
    rw [List.append_assoc, List.singleton_append] at stays written
    rw [kept, List.append_assoc] at written
    refine ⟨stays, ⟨_, written, ?_⟩, ?_⟩
    · intro report h same
      rcases List.mem_append.mp h with first | h
      · have none := passes.offered report first same
        rw [offered_after] at none
        exact absurd none List.not_mem_nil
      · exact named report h same
    · intro outcome h
      rw [session_recorded, outcomes, List.mem_cons] at h
      rcases h with rfl | h
      · exact ⟨passes.retried, passes.refreshed⟩
      · rw [session] at later
        exact later outcome h

end Recorder

open Sample in
set_option maxRecDepth 10000 in
/-- A page waits for a store, and is blocked since it sends mails. The store, the mailer and an
implementor of the mailer come later, and a further method of the page. -/
theorem Recorder.blocked_for_good_mailing_page :
    let requests : List Request :=
      [.ingest (caller "Page" (method "Store" "load")), .ingest mailing]
    let units : List SourceUnit := [store, { name := "Mailer", methods := [Facts.bare mailer] },
      implementor "Relay" "Phone" mailer,
      { name := "Page", methods := [Facts.bare (method "Page" "help")] }]
    let d : Deferred := ⟨"Page", [method "Page" "mail"], .ofList [mailer]⟩
    let before := recorded {} requests
    let now := recorded {} (requests ++ units.map .ingest)
    (before.1.session.blocked["Page"]? = some d ∧
      ∀ u ∈ units, ({} : Settings).skipsUnit u.name = true ∨ u.entryPoints = [] ∨ u.name ≠ "Page") ∧
      now.1.session.blocked["Page"]? = some d ∧
      (∃ new, now.2 = before.2 ++ new ∧ ∀ report ∈ new, report.name ≠ "Page") ∧
      ∀ outcome ∈ before.1.session.outcomes units,
        "Page" ∉ outcome.retried.map (·.1) ∧ "Page" ∉ outcome.refreshed.map (·.1) := by
  intro requests units d
  have blocked : (Session.after {} requests).blocked["Page"]? = some d := by decide +kernel
  have others : ∀ u ∈ units,
      ({} : Settings).skipsUnit u.name = true ∨ u.entryPoints = [] ∨ u.name ≠ "Page" := by
    decide +kernel
  rw [← session_recorded] at blocked
  exact ⟨⟨blocked, others⟩, blocked_for_good {} requests units "Page" d blocked others⟩

end DataTrail
