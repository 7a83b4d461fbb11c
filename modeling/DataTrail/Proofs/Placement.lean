import DataTrail.Proofs.Wakeup

/-! Where the reports are that units ask for. If a name always comes with the same entry points and
no missing method is outside the namespace, then every report that was asked for is written or
waits, with the entry points that it was asked for with, and what it waits for is reached from
them. -/

namespace DataTrail

/-- What makes a list of requested reports easy to follow in the program `p`. -/
structure Orderly (p : Program) (depth : Nat) (asked : List (String × List MethodId)) : Prop where
  unique : ∀ n eps eps', (n, eps) ∈ asked → (n, eps') ∈ asked → eps = eps'
  distinct : ∀ n eps, (n, eps) ∈ asked → eps.Nodup
  inside : ∀ n eps, (n, eps) ∈ asked → ∀ m, ¬p.LacksOutside depth eps m

namespace Session

variable {s s' : Session} {asked calls : List (String × List MethodId)} {name n : String}
  {eps : List MethodId} {verdict : Verdict} {results : List (String × Verdict)}

/-- The report `n` is nowhere but where it was asked for. -/
structure Tracked (s : Session) (asked : List (String × List MethodId)) (n : String) : Prop where
  written : ∀ eps, s.finalized[n]? = some eps → (n, eps) ∈ asked
  waiting : ∀ d, s.waitList.find? n = some d → (n, d.entryPoints) ∈ asked
  reached : ∀ d, s.waitList.find? n = some d → ∀ m ∈ d.waitingFor,
    s.program.ReachedFrom d.entryPoints m
  unblocked : s.blocked[n]? = none

/-- The report `n` is written or waits. -/
def Placed (s : Session) (n : String) : Prop :=
  s.finalized[n]? ≠ none ∨ s.waitList.find? n ≠ none

theorem SameAt.placed (same : s.SameAt s' n) : s'.Placed n ↔ s.Placed n := by
  rw [Placed, Placed, same.finalized, same.waitList]

theorem SameAt.tracked (same : s.SameAt s' n) (program : s'.program = s.program)
    (h : s.Tracked asked n) : s'.Tracked asked n where
  written := by rw [same.finalized]; exact h.written
  waiting := by rw [same.waitList]; exact h.waiting
  reached := by rw [same.waitList, program]; exact h.reached
  unblocked := by rw [same.blocked]; exact h.unblocked

/-- Unless a method is overtaken, what a report waits for is reached for good. -/
theorem Registers.tracked {fs : List Facts} {done : Registration}
    (registered : s.Registers fs s' done) (mirrored : s.program.Mirrored)
    (kept : ∀ m, ¬s.program.Overtaken s'.program m) (h : s.Tracked asked n) :
    s'.Tracked asked n where
  written := by rw [registered.finalized]; exact h.written
  waiting := by rw [registered.waitList]; exact h.waiting
  reached := by
    rw [registered.waitList]
    intro d hd m hm
    obtain ⟨e, he, reaches⟩ := h.reached d hd m hm
    have later : s'.program.Mirrored := registered.program ▸ mirrored.foldl_register fs
    exact ⟨e, he, registered.extends.reaches mirrored later kept reaches⟩
  unblocked := by rw [registered.blocked]; exact h.unblocked

theorem Tracked.mono {more : List (String × List MethodId)} (h : s.Tracked asked n)
    (subset : ∀ c ∈ asked, c ∈ more) : s.Tracked more n where
  written eps he := subset _ (h.written eps he)
  waiting d hd := subset _ (h.waiting d hd)
  reached := h.reached
  unblocked := h.unblocked

theorem Resolves.tracked_of_pending {part : Report} {waitingFor : MethodSet}
    (resolved : s.Resolves n eps (.pending part waitingFor) s')
    (orderly : Orderly s.program s.settings.namespaceDepth asked) (request : (n, eps) ∈ asked)
    (reaches : ∀ m ∈ waitingFor, s.program.ReachedFrom eps m) (h : s.Tracked asked n) :
    s'.Tracked asked n := by
  have finalized : s'.finalized[n]? = none := by
    rw [resolved.finalized, if_pos rfl]
    rfl
  have waits : s'.waitList.find? n =
      some (s.waitList.deferral n eps waitingFor s.program.isMissing) := by
    rw [resolved.waitList, if_pos rfl, deferredBy]
  have entryPoints :
      (s.waitList.deferral n eps waitingFor s.program.isMissing).entryPoints = eps :=
    WaitList.entryPoints_deferral_self (orderly.distinct n eps request) fun d known =>
      orderly.unique n _ _ (h.waiting d known) request
  refine ⟨fun eps' written => ?_, fun d hd => ?_, fun d hd m hm => ?_, ?_⟩
  · simp [finalized] at written
  · rw [waits, Option.some.injEq] at hd
    rw [← hd, entryPoints]
    exact request
  · rw [waits, Option.some.injEq] at hd
    rw [← hd] at hm
    rw [← hd, resolved.program, entryPoints]
    rcases WaitList.mem_waitingFor_deferral.mp hm with ⟨old, hold, hm, _⟩ | new
    · rw [← orderly.unique n _ _ (h.waiting old hold) request]
      exact h.reached old hold m hm
    · exact reaches m new
  · rw [resolved.blocked, if_pos rfl]
    rfl

theorem Resolves.tracked_of_finalized {report : Report}
    (resolved : s.Resolves n eps (.finalized report) s') (request : (n, eps) ∈ asked)
    (h : s.Tracked asked n) : s'.Tracked asked n where
  written eps' written := by
    have finalized : s'.finalized[n]? = some eps := by
      rw [resolved.finalized, if_pos rfl]
      rfl
    rw [finalized, Option.some.injEq] at written
    exact written ▸ request
  waiting := by
    rw [resolved.waitList, if_pos rfl, deferredBy]
    exact h.waiting
  reached := by
    rw [resolved.waitList, if_pos rfl, deferredBy, resolved.program]
    exact h.reached
  unblocked := by
    rw [resolved.blocked, if_pos rfl]
    rfl

/-- A report that was asked for is placed by its resolution. -/
theorem Resolves.tracked_self (resolved : s.Resolves n eps verdict s')
    (orderly : Orderly s.program s.settings.namespaceDepth asked) (request : (n, eps) ∈ asked)
    (h : s.Tracked asked n) : s'.Tracked asked n ∧ s'.Placed n := by
  cases resolved.fits with
  | blocked outside =>
    obtain ⟨m, hm⟩ := outside
    exact absurd hm (orderly.inside n eps request m)
  | finalized known =>
    refine ⟨resolved.tracked_of_finalized request h, .inl ?_⟩
    rw [resolved.finalized, if_pos rfl]
    exact Option.some_ne_none eps
  | @pending part waitingFor inside lacking exact =>
    have reaches : ∀ m ∈ waitingFor, s.program.ReachedFrom eps m := by
      intro m hm
      obtain ⟨e, he, reaches, _⟩ := (exact m).mp hm
      exact ⟨e, he, reaches⟩
    refine ⟨resolved.tracked_of_pending orderly request reaches h, .inr ?_⟩
    rw [resolved.waitList, if_pos rfl]
    exact Option.some_ne_none _

theorem Resolves.tracked (resolved : s.Resolves name eps verdict s')
    (orderly : Orderly s.program s.settings.namespaceDepth asked) (request : (name, eps) ∈ asked)
    (h : s.Tracked asked n) : s'.Tracked asked n ∧ (name = n ∨ s.Placed n → s'.Placed n) := by
  by_cases same : name = n
  · subst same
    obtain ⟨tracked, placed⟩ := resolved.tracked_self orderly request h
    exact ⟨tracked, fun _ => placed⟩
  · have kept := resolved.sameAt same
    refine ⟨kept.tracked resolved.program h, fun before => ?_⟩
    exact kept.placed.mpr (before.resolve_left same)

theorem ResolvesAll.tracked (all : s.ResolvesAll calls results s')
    (orderly : Orderly s.program s.settings.namespaceDepth asked)
    (requests : ∀ c ∈ calls, c ∈ asked) (h : s.Tracked asked n) :
    s'.Tracked asked n ∧ (n ∈ calls.map (·.1) ∨ s.Placed n → s'.Placed n) := by
  induction all with
  | done quiet =>
    refine ⟨(quiet.sameAt n).tracked quiet.program h, fun placed => ?_⟩
    exact (quiet.sameAt n).placed.mpr (placed.resolve_left List.not_mem_nil)
  | @next first second last name eps verdict calls results step rest ih =>
    obtain ⟨tracked, placed⟩ := step.tracked orderly (requests _ List.mem_cons_self) h
    rw [← step.program, ← step.settings] at orderly
    obtain ⟨tracked', placed'⟩ :=
      ih orderly (fun c hc => requests c (List.mem_cons_of_mem _ hc)) tracked
    refine ⟨tracked', fun before => placed' ?_⟩
    rw [List.map_cons, List.mem_cons] at before
    rcases before with (same | later) | before
    · exact .inr (placed (.inl same.symm))
    · exact .inl later
    · exact .inr (placed (.inr before))

section Release

variable {arrived : List MethodId}

theorem Tracked.releasing (h : s.Tracked asked n) (valid : s.waitList.Valid) :
    (s.releasing arrived).Tracked asked n := by
  refine ⟨h.written, fun d hd => ?_, fun d hd m hm => ?_, h.unblocked⟩
  · obtain ⟨old, hold, entryPoints, _⟩ := find?_releasing valid hd
    exact entryPoints ▸ h.waiting old hold
  · obtain ⟨old, hold, entryPoints, waitingFor⟩ := find?_releasing valid hd
    exact entryPoints ▸ h.reached old hold m (waitingFor m hm).1

/-- What leaves the wait-list is tried again. -/
theorem Placed.releasing (h : s.Placed n) (valid : s.waitList.Valid) :
    n ∈ (s.released arrived).map (·.1) ∨ (s.releasing arrived).Placed n := by
  rcases h with written | waits
  · exact .inr (.inl written)
  · obtain ⟨d, hd⟩ := Option.ne_none_iff_exists'.mp waits
    cases left : d.awaiting? arrived with
    | none => exact .inl ((mem_released_names valid).mpr ⟨d, hd, left⟩)
    | some d' =>
      refine .inr (.inr ?_)
      rw [Session.releasing, WaitList.find?_releaseEach valid, hd, Option.bind_some, left]
      exact Option.some_ne_none d'

end Release

/-- Taking in a unit tracks what was asked for before and what the unit asks for. -/
theorem Absorbs.tracked {u : SourceUnit} {outcome : Outcome}
    (absorbed : s.Absorbs u s' outcome) (sound : s.Sound)
    (kept : ∀ m, ¬s.program.Overtaken s'.program m)
    (orderly : Orderly s'.program s'.settings.namespaceDepth (asked ++ u.calls))
    (h : ∀ n, s.Tracked asked n) (n : String) :
    s'.Tracked (asked ++ u.calls) n ∧ (n ∈ u.calls.map (·.1) ∨ s.Placed n → s'.Placed n) := by
  have program := absorbed.program
  have settings := absorbed.settings
  obtain ⟨done, s₁, s₂, s₃, again, registered, own, retried, refreshed, mem_again⟩ := absorbed
  rw [program, ← registered.program] at orderly kept
  rw [settings, ← registered.settings] at orderly
  have valid : s₂.waitList.Valid := own.valid (registered.waitList ▸ sound.valid)
  -- Each phase resolves what has been asked for, as the phase before it has tracked.
  have at₁ : ∀ k, s₁.Tracked (asked ++ u.calls) k := fun k =>
    (registered.tracked sound.mirrored kept (h k)).mono fun c => List.mem_append_left _
  have at₂ := fun k => own.tracked orderly (fun c => List.mem_append_right _) (at₁ k)
  rw [← own.program, ← own.settings] at orderly
  have releases : ∀ c ∈ s₂.released done.announced, c ∈ asked ++ u.calls := by
    rintro ⟨k, eps⟩ hc
    obtain ⟨d, hd, _, rfl⟩ := (mem_released valid).mp hc
    exact (at₂ k).1.waiting d hd
  have at₃ := fun k => retried.tracked orderly releases ((at₂ k).1.releasing valid)
  have program₃ : s₃.program = s₂.program := retried.program
  have settings₃ : s₃.settings = s₂.settings := retried.settings
  rw [← program₃, ← settings₃] at orderly
  have refreshes : ∀ c ∈ again, c ∈ asked ++ u.calls := by
    rintro ⟨k, eps⟩ hc
    exact (at₃ k).1.written eps ((mem_again k eps).mp hc).2
  obtain ⟨tracked, placed⟩ := refreshed.tracked orderly refreshes (at₃ n).1
  refine ⟨tracked, fun before => placed (.inr ((at₃ n).2 ?_))⟩
  rw [← (registered.sameAt n).placed] at before
  exact ((at₂ n).2 before).releasing valid

end Session

end DataTrail
