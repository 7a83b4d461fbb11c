import Mathlib.Data.List.Nodup
import DataTrail.Proofs.Release
import DataTrail.Proofs.Standing

/-! When a deferred report is tried again. A unit that does not ask for the report tries it just when
it brings the last of what the report waits for, and then as if the report were asked for with the
entry points of its wait-list entry. Otherwise the unit crosses off what it brings. -/

namespace DataTrail

/-- The program and the report leave no choice of the verdict. -/
theorem Verdict.Fits.unique {p : Program} {depth : Nat} {eps : List MethodId} {v w : Verdict}
    (hv : v.Fits p depth eps) (hw : w.Fits p depth eps) (same : v.report = w.report) : v = w := by
  cases hv with
  | blocked outside exact =>
    cases hw with
    | blocked _ exact' =>
      rw [Std.ExtTreeSet.ext_mem fun m => (exact m).trans (exact' m).symm]
      exact congrArg (Verdict.blocked · _) same
    | pending inside => exact absurd outside (not_exists.mpr inside)
    | finalized known =>
      obtain ⟨m, hm⟩ := outside
      exact absurd hm.lacks (known m)
  | pending inside lacking exact =>
    cases hw with
    | blocked outside => exact absurd outside (not_exists.mpr inside)
    | pending _ _ exact' =>
      rw [Std.ExtTreeSet.ext_mem fun m => (exact m).trans (exact' m).symm]
      exact congrArg (Verdict.pending · _) same
    | finalized known => exact absurd lacking (not_exists.mpr known)
  | finalized known =>
    cases hw with
    | blocked outside =>
      obtain ⟨m, hm⟩ := outside
      exact absurd hm.lacks (known m)
    | pending _ lacking => exact absurd lacking (not_exists.mpr known)
    | finalized => exact congrArg Verdict.finalized same

/-- All that the entry waits for is there in the program `p`. -/
def Deferred.IsDue (d : Deferred) (p : Program) : Prop :=
  ∀ m ∈ d.waitingFor, p.registry.contains m ∨ p.dispatch.isImplemented m

instance (d : Deferred) (p : Program) : Decidable (d.IsDue p) :=
  decidable_of_iff
    (∀ m ∈ d.waitingFor.toList, p.registry.contains m ∨ p.dispatch.isImplemented m)
    (by simp only [Std.ExtTreeSet.mem_toList, Deferred.IsDue])

theorem Deferred.isDue_iff {d : Deferred} {p : Program} :
    d.IsDue p ↔ ∀ m ∈ d.waitingFor, p.isMissing m = false := by
  refine forall₂_congr fun m _ => ?_
  rw [Program.isMissing]
  cases p.registry.contains m <;> simp

namespace Session

variable {s s' t : Session} {name n : String} {eps : List MethodId} {verdict : Verdict}
  {calls : List (String × List MethodId)} {results : List (String × Verdict)} {u : SourceUnit}
  {outcome : Outcome} {d d' : Deferred} {arrived : List MethodId}

theorem Resolves.verdict_eq (resolved : s.Resolves name eps verdict s') :
    verdict = (s.handle name eps).2 := by
  have spec := handle_resolves s name eps
  exact resolved.fits.unique spec.fits (resolved.report.trans spec.report.symm)

theorem verdict_congr (program : t.program = s.program) (settings : t.settings = s.settings)
    (name : String) (eps : List MethodId) : (t.handle name eps).2 = (s.handle name eps).2 := by
  have later := handle_resolves t name eps
  have spec := handle_resolves s name eps
  have fits := later.fits
  rw [program, settings] at fits
  refine fits.unique spec.fits ?_
  rw [later.report, spec.report, survey, survey, program, settings]

/-- Each report has the verdict that it would have had first. -/
theorem ResolvesAll.results_eq (all : s.ResolvesAll calls results s') :
    results = calls.map fun call => (call.1, (s.handle call.1 call.2).2) := by
  induction all with
  | done => rfl
  | next step _ ih =>
    rw [List.map_cons, ← step.verdict_eq, ih]
    simp only [verdict_congr step.program step.settings]

/-- Two resolutions of `n` leave it the same if they start with the same program and entry. -/
theorem SettlesAt.sameAt {a b a' b' : Session} (ha : a.SettlesAt n eps verdict a')
    (hb : b.SettlesAt n eps verdict b') (program : b.program = a.program)
    (waitList : b.waitList.find? n = a.waitList.find? n) : a'.SameAt b' n where
  finalized := hb.finalized.trans ha.finalized.symm
  blocked := hb.blocked.trans ha.blocked.symm
  waitList := by
    rw [ha.waitList, hb.waitList]
    cases verdict <;> simp only [deferredBy, WaitList.deferral, waitList, program]

theorem ResolvesAll.settlesAt_handle (all : s.ResolvesAll calls results s')
    (distinct : (calls.map (·.1)).Nodup) (call : (n, eps) ∈ calls) :
    s.SettlesAt n eps (s.handle n eps).2 s' := by
  obtain ⟨verdict, listed, settled⟩ := all.settlesAt distinct call
  rw [all.results_eq] at listed
  obtain ⟨⟨_, eps'⟩, call', same⟩ := List.mem_map.mp listed
  obtain ⟨rfl, rfl⟩ := Prod.mk.inj same
  obtain ⟨_, rfl⟩ := Prod.mk.inj (List.inj_on_of_nodup_map distinct call' call rfl)
  exact settled

section Released

/-- A released report is resolved with the entry points that waited, as it would be from any state
`a` of the same program where it does not wait. -/
theorem ResolvesAll.tries (all : (s.releasing arrived).ResolvesAll (s.released arrived) results s')
    (valid : s.waitList.Valid) (waits : s.waitList.find? n = some d)
    (last : d.awaiting? arrived = none) {a : Session} (program : a.program = s.program)
    (settings : a.settings = s.settings) (idle : a.waitList.find? n = none) :
    (n, (a.handle n d.entryPoints).2) ∈ results ∧ (a.handle n d.entryPoints).1.SameAt s' n := by
  have call : (n, d.entryPoints) ∈ s.released arrived :=
    (mem_released valid).mpr ⟨d, waits, last, rfl⟩
  have gone := find?_releasing_of_released valid (List.mem_map_of_mem (f := (·.1)) call)
  have settled := all.settlesAt_handle (nodup_released valid arrived) call
  have same : ((s.releasing arrived).handle n d.entryPoints).2 = (a.handle n d.entryPoints).2 :=
    verdict_congr (t := s.releasing arrived) program.symm settings.symm n d.entryPoints
  rw [same] at settled
  constructor
  · rw [all.results_eq, ← same]
    exact List.mem_map_of_mem (f := fun call => (call.1, ((s.releasing arrived).handle _ _).2)) call
  · exact (handle_resolves a n d.entryPoints).settlesAt.sameAt settled program.symm
      (gone.trans idle.symm)

/-- A report that is not released stays on the list with what has not arrived. -/
theorem ResolvesAll.leaves (all : (s.releasing arrived).ResolvesAll (s.released arrived) results s')
    (valid : s.waitList.Valid) (waits : s.waitList.find? n = some d)
    (left : d.awaiting? arrived = some d') :
    n ∉ results.map (·.1) ∧ s'.waitList.find? n = some d' ∧ s'.finalized[n]? = s.finalized[n]? := by
  have notReleased : n ∉ (s.released arrived).map (·.1) := by
    simp [mem_released_names valid, waits, left]
  have same := all.sameAt notReleased
  refine ⟨all.names ▸ notReleased, ?_, same.finalized⟩
  rw [same.waitList, releasing, WaitList.find?_releaseEach valid, waits, Option.bind_some, left]

end Released

theorem Absorbs.tries (absorbed : s.Absorbs u s' outcome) (sound : s.Sound)
    (waits : s.waitList.find? n = some d) (other : n ∉ u.calls.map (·.1))
    (due : d.IsDue s'.program) {a : Session} (program : a.program = s'.program)
    (settings : a.settings = s.settings) (idle : a.waitList.find? n = none) :
    (n, (a.handle n d.entryPoints).2) ∈ outcome.retried ∧
      (a.handle n d.entryPoints).1.SameAt s' n := by
  have now := absorbed.program
  obtain ⟨done, s₁, s₂, s₃, again, registered, own, retried, refreshed, mem_again, _⟩ := absorbed
  rw [now, ← registered.program] at due program
  have valid : s₂.waitList.Valid := own.valid (registered.waitList ▸ sound.valid)
  have at₂ : s.SameAt s₂ n := (registered.sameAt n).trans (own.sameAt other)
  have last : d.awaiting? done.announced = none := by
    by_contra left
    obtain ⟨m, hm, missing⟩ := (registered.awaiting?_ne_none_iff sound waits).mp left
    simp [Deferred.isDue_iff.mp due m hm] at missing
  obtain ⟨listed, at₃⟩ := retried.tries valid (at₂.waitList.trans waits) last
    (program.trans own.program.symm)
    (settings.trans (own.settings.trans registered.settings).symm) idle
  -- What was tried is not written again.
  have notAgain : n ∉ again.map (·.1) := by
    intro again
    obtain ⟨⟨_, eps⟩, call, rfl⟩ := List.mem_map.mp again
    refine ((mem_again _ eps).mp call).1.1 (List.mem_append_right _ ?_)
    exact (mem_released_names valid).mpr ⟨d, at₂.waitList.trans waits, last⟩
  exact ⟨listed, at₃.trans (refreshed.sameAt notAgain)⟩

theorem Absorbs.leaves (absorbed : s.Absorbs u s' outcome) (sound : s.Sound)
    (waits : s.waitList.find? n = some d) (other : n ∉ u.calls.map (·.1))
    (unwritten : s.finalized[n]? = none) (early : ¬d.IsDue s'.program) :
    n ∉ outcome.retried.map (·.1) ∧ ∃ d', s'.waitList.find? n = some d' ∧
      d'.entryPoints = d.entryPoints ∧
      ∀ m, m ∈ d'.waitingFor ↔ m ∈ d.waitingFor ∧ s'.program.isMissing m := by
  have now := absorbed.program
  obtain ⟨done, s₁, s₂, s₃, again, registered, own, retried, refreshed, mem_again, _⟩ := absorbed
  rw [now, ← registered.program] at early ⊢
  have valid : s₂.waitList.Valid := own.valid (registered.waitList ▸ sound.valid)
  have at₂ : s.SameAt s₂ n := (registered.sameAt n).trans (own.sameAt other)
  obtain ⟨d', left⟩ : ∃ d', d.awaiting? done.announced = some d' := by
    refine Option.ne_none_iff_exists'.mp ((registered.awaiting?_ne_none_iff sound waits).mpr ?_)
    simpa [Deferred.isDue_iff] using early
  obtain ⟨notTried, waits', finalized⟩ := retried.leaves valid (at₂.waitList.trans waits) left
  have notAgain : n ∉ again.map (·.1) := by
    intro again
    obtain ⟨⟨_, eps⟩, call, rfl⟩ := List.mem_map.mp again
    have written := ((mem_again _ eps).mp call).2
    simp [finalized, at₂.finalized, unwritten] at written
  obtain ⟨_, entryPoints, _, waitingFor⟩ := Deferred.awaiting?_eq_some left
  refine ⟨notTried, d', (refreshed.sameAt notAgain).waitList.trans waits', entryPoints, fun m => ?_⟩
  rw [waitingFor]
  refine and_congr_right fun hm => ?_
  have missing := (sound.awaits n d waits m hm).resolve_right List.not_mem_nil
  rw [registered.mem_announced_iff sound.mirrored missing, Bool.not_eq_false]

theorem Absorbs.increasing_retried (absorbed : s.Absorbs u s' outcome) (sound : s.Sound) :
    Increasing (outcome.retried.map (·.1)) := by
  obtain ⟨done, s₁, s₂, s₃, again, registered, own, retried, _⟩ := absorbed
  have valid : s₂.waitList.Valid := own.valid (registered.waitList ▸ sound.valid)
  rw [retried.names, released, List.map_map]
  exact WaitList.increasing_inNameOrder_releaseEach valid done.announced

/-- The analysis with no wait-list entry of the name `n`. -/
def without (s : Session) (n : String) : Session := { s with waitList := s.waitList.remove n }

theorem find?_without : (s.without n).waitList.find? n = none := by
  rw [without, WaitList.find?_remove, if_pos rfl]

/-- Whatever was asked before, a unit retries reports in the order of their names. A report that
waits, is not written and is not the unit's own is retried once if the methods of the unit complete
what it waits for: the result is that of its entry points, resolved when the methods are registered.
If they do not, it goes on waiting for those methods that are still missing. -/
theorem retried_exactly_when_due (settings : Settings) (requests : List Request) (u : SourceUnit) :
    let s := after settings requests
    let t := (s.registerUnit u).1
    let s' := (s.ingest u).1
    let retried := (s.ingest u).2.retried
    Increasing (retried.map (·.1)) ∧
      ∀ n d, settings.skipsUnit u.name = false → s.waitList.find? n = some d → n ≠ u.name →
        s.finalized[n]? = none →
        ((retried.map (·.1)).count n = 1 ↔ d.IsDue t.program) ∧
          (d.IsDue t.program →
            (n, ((t.without n).handle n d.entryPoints).2) ∈ retried ∧
              ((t.without n).handle n d.entryPoints).1.SameAt s' n) ∧
          (¬d.IsDue t.program → n ∉ retried.map (·.1) ∧ ∃ d', s'.waitList.find? n = some d' ∧
            d'.entryPoints = d.entryPoints ∧ ∀ m, m ∈ d'.waitingFor ↔ m ∈ d.waitingFor ∧
              t.program.registry.contains m = false ∧
                t.program.dispatch.isImplemented m = false) := by
  intro s t s' retried
  have sound : s.Sound := sound_after settings requests
  rcases ingest_cases sound.mirrored u with ⟨skips, _⟩ | ⟨_, absorbed⟩
  · rw [show retried = [] from congrArg (·.retried) (ingest_skipped skips)]
    refine ⟨List.Pairwise.nil, fun n d takes => ?_⟩
    rw [settings_after, takes] at skips
    exact absurd skips Bool.false_ne_true
  have increasing : Increasing (retried.map (·.1)) := absorbed.increasing_retried sound
  refine ⟨increasing, fun n d _ waits other unwritten => ?_⟩
  have registered := registers_registerUnit sound.mirrored u
  have program : t.program = s'.program := registered.program.trans absorbed.program.symm
  have unasked : n ∉ u.calls.map (·.1) := fun asked =>
    other (SourceUnit.mem_names_calls.mp asked).2.symm
  have tries (due : d.IsDue t.program) := absorbed.tries sound waits unasked (program ▸ due)
    (a := t.without n) program registered.settings find?_without
  have leaves (early : ¬d.IsDue t.program) :=
    absorbed.leaves sound waits unasked unwritten (program ▸ early)
  refine ⟨?_, tries, fun early => ?_⟩
  · rw [increasing.nodup.count]
    by_cases due : d.IsDue t.program
    · have listed : n ∈ retried.map (·.1) := List.mem_map_of_mem (f := (·.1)) (tries due).1
      rw [if_pos listed]
      exact iff_of_true rfl due
    · rw [if_neg (leaves due).1]
      exact iff_of_false Nat.zero_ne_one due
  · obtain ⟨untried, d', waits', entryPoints, waitingFor⟩ := leaves early
    refine ⟨untried, d', waits', entryPoints, fun m => ?_⟩
    rw [waitingFor, ← program, Program.isMissing]
    simp

end Session

open Sample in
set_option maxRecDepth 10000 in
/-- A store brings all that a form waits for, and half of what a page waits for. -/
theorem Session.retried_exactly_when_due_store :
    let requests : List Request := [.ingest page, .ingest (caller "Form" (method "Store" "load"))]
    let s := after {} requests
    let t := (s.registerUnit store).1
    let s' := (s.ingest store).1
    let retried := (s.ingest store).2.retried
    let form : Deferred := ⟨"Form", [method "Form" "show"], .ofList [method "Store" "load"]⟩
    let whole : Deferred :=
      ⟨"Page", [method "Page" "show"], .ofList [method "Store" "load", method "Base" "run"]⟩
    (({} : Settings).skipsUnit store.name = false ∧
      (s.waitList.find? "Form" = some form ∧ "Form" ≠ store.name ∧ s.finalized["Form"]? = none) ∧
      s.waitList.find? "Page" = some whole ∧ "Page" ≠ store.name ∧ s.finalized["Page"]? = none) ∧
      Increasing (retried.map (·.1)) ∧
      ((retried.map (·.1)).count "Form" = 1 ∧
        (("Form", ((t.without "Form").handle "Form" form.entryPoints).2) ∈ retried ∧
          ((t.without "Form").handle "Form" form.entryPoints).1.SameAt s' "Form")) ∧
      "Page" ∉ retried.map (·.1) ∧ ∃ d', s'.waitList.find? "Page" = some d' ∧
        d'.entryPoints = whole.entryPoints ∧ ∀ m, m ∈ d'.waitingFor ↔ m ∈ whole.waitingFor ∧
          t.program.registry.contains m = false ∧ t.program.dispatch.isImplemented m = false := by
  intro requests s t s' retried form whole
  have takes : ({} : Settings).skipsUnit store.name = false := by decide +kernel
  have formWaits : s.waitList.find? "Form" = some form ∧ "Form" ≠ store.name ∧
      s.finalized["Form"]? = none := by decide +kernel
  have pageWaits : s.waitList.find? "Page" = some whole ∧ "Page" ≠ store.name ∧
      s.finalized["Page"]? = none := by decide +kernel
  obtain ⟨increasing, each⟩ := retried_exactly_when_due {} requests store
  obtain ⟨once, tries, _⟩ := each "Form" form takes formWaits.1 formWaits.2.1 formWaits.2.2
  obtain ⟨_, _, leaves⟩ := each "Page" whole takes pageWaits.1 pageWaits.2.1 pageWaits.2.2
  have ⟨due, early⟩ : form.IsDue t.program ∧ ¬whole.IsDue t.program := by decide +kernel
  exact ⟨⟨takes, formWaits, pageWaits⟩, increasing, ⟨once.mpr due, tries due⟩, leaves early⟩

end DataTrail
