import DataTrail.Proofs.Handle

/-! Taking in a unit, phase by phase. Methods are registered, which leaves the reports alone; then
the unit's own report, the released ones and those that read a widened interface are resolved, one
after the other. `ingest_cases` says so in one statement, and it is all that later proofs know of
`Session.ingest`. -/

namespace DataTrail

/-- The methods of a unit that have a body. -/
def SourceUnit.bodies (u : SourceUnit) : List Facts := u.methods.filter (!·.isAbstract)

/-- A unit asks for its own report if it declares an entry point. -/
def SourceUnit.calls (u : SourceUnit) : List (String × List MethodId) :=
  if u.entryPoints = [] then [] else [(u.name, u.entryPoints)]

theorem SourceUnit.mem_calls {u : SourceUnit} {n : String} {eps : List MethodId} :
    (n, eps) ∈ u.calls ↔ u.entryPoints ≠ [] ∧ n = u.name ∧ eps = u.entryPoints := by
  unfold calls
  split
  case isTrue none => simp [none]
  case isFalse some => simp [some]

theorem SourceUnit.mem_names_calls {u : SourceUnit} {n : String} :
    n ∈ u.calls.map (·.1) ↔ u.entryPoints ≠ [] ∧ u.name = n := by
  unfold calls
  split
  case isTrue none => simp [none]
  case isFalse some => simp [some, eq_comm]

theorem SourceUnit.nodup_calls (u : SourceUnit) : (u.calls.map (·.1)).Nodup := by
  unfold calls
  split <;> simp

namespace Session

variable {s s' t t' : Session} {name n : String} {eps : List MethodId} {verdict : Verdict}
  {fs : List Facts} {done : Registration} {calls : List (String × List MethodId)}
  {results : List (String × Verdict)}

/-- Nothing has happened to a report between `s` and `s'`. -/
structure SameReports (s s' : Session) : Prop where
  settings : s'.settings = s.settings
  waitList : s'.waitList = s.waitList
  blocked : s'.blocked = s.blocked
  finalized : s'.finalized = s.finalized
  readers : s'.readers = s.readers
  offered : s'.offered = s.offered

/-- Nothing but counts and notices differs. -/
structure Quiet (s s' : Session) : Prop extends SameReports s s' where
  program : s'.program = s.program

theorem SameReports.trans (h : s.SameReports t) (h' : t.SameReports s') : s.SameReports s' :=
  ⟨h'.settings.trans h.settings, h'.waitList.trans h.waitList, h'.blocked.trans h.blocked,
    h'.finalized.trans h.finalized, h'.readers.trans h.readers, h'.offered.trans h.offered⟩

theorem Quiet.trans (h : s.Quiet t) (h' : t.Quiet s') : s.Quiet s' :=
  ⟨h.toSameReports.trans h'.toSameReports, h'.program.trans h.program⟩

theorem Quiet.refl (s : Session) : s.Quiet s := ⟨⟨rfl, rfl, rfl, rfl, rfl, rfl⟩, rfl⟩

theorem quiet_tally (s : Session) (tally : Tally) : s.Quiet { s with tally } :=
  ⟨⟨rfl, rfl, rfl, rfl, rfl, rfl⟩, rfl⟩

theorem quiet_noteAll (s : Session) (notices : List Notice) : s.Quiet (s.noteAll notices) := by
  rw [noteAll_eq]
  exact ⟨⟨rfl, rfl, rfl, rfl, rfl, offered_of_notices rfl⟩, rfl⟩

theorem quiet_note (s : Session) (notice : Notice) : s.Quiet (s.note notice) :=
  quiet_noteAll s [notice]

section Register

/-- All that the registration of the methods `fs` does. -/
structure Registers (s : Session) (fs : List Facts) (s' : Session) (done : Registration) : Prop
    extends SameReports s s' where
  program : s'.program = fs.foldl Program.register s.program
  mem_announced : ∀ m, m ∈ done.announced ↔
    s.program.Arrives s'.program m ∨ s.program.Gains s'.program m
  mem_widened : ∀ m, m ∈ done.widened ↔ s.program.Gains s'.program m

theorem registers_nil (s : Session) : s.Registers [] s {} where
  toSameReports := (Quiet.refl s).toSameReports
  program := rfl
  mem_announced m := by
    simp [Program.not_arrives_self, Program.not_gains_self]
  mem_widened m := by
    simp [Program.not_gains_self]

theorem Registers.extends (h : s.Registers fs t done) : s.program.Extends t.program :=
  h.program ▸ Program.extends_foldl_register fs s.program

theorem Registers.quiet_left (q : s.Quiet t) (h : t.Registers fs s' done) :
    s.Registers fs s' done where
  toSameReports := q.toSameReports.trans h.toSameReports
  program := q.program ▸ h.program
  mem_announced := q.program ▸ h.mem_announced
  mem_widened := q.program ▸ h.mem_widened

theorem Registers.quiet_right (h : s.Registers fs t done) (q : t.Quiet t')
    {done' : Registration} (announced : done'.announced = done.announced)
    (widened : done'.widened = done.widened) : s.Registers fs t' done' where
  toSameReports := h.toSameReports.trans q.toSameReports
  program := q.program.trans h.program
  mem_announced := by rw [q.program, announced]; exact h.mem_announced
  mem_widened := by rw [q.program, widened]; exact h.mem_widened

theorem Registers.known (h : s.Registers fs t done) {f : Facts}
    (known : t.program.registry.contains f.method) : s.Registers (fs ++ [f]) t done where
  toSameReports := h.toSameReports
  program := by
    rw [List.foldl_append, ← h.program, List.foldl_cons, List.foldl_nil, Program.register,
      if_pos known]
  mem_announced := h.mem_announced
  mem_widened := h.mem_widened

theorem Registers.new (mirrored : s.program.Mirrored) (h : s.Registers fs t done) {f : Facts}
    (new : t.program.registry.find? f.method = none) (tally : Tally) (registered : Nat) :
    s.Registers (fs ++ [f]) { t with program := t.program.register f, tally }
      { done with
        registered
        announced := done.announced ++ f.implements ++ [f.method]
        widened := done.widened ∪
          .ofList (f.implements.filter fun m => !t.program.dispatch.lists m f.method) } where
  toSameReports := h.toSameReports.trans ⟨rfl, rfl, rfl, rfl, rfl, rfl⟩
  program := by
    rw [List.foldl_append, ← h.program, List.foldl_cons, List.foldl_nil]
  mem_announced m := by
    rw [Program.arrives_trans h.extends (Program.extends_register t.program f),
      Program.gains_trans h.extends (Program.extends_register t.program f),
      Program.arrives_register new, Program.gains_register new]
    simp only [List.mem_append, List.mem_singleton, h.mem_announced m]
    grind
  mem_widened m := by
    have mirrored : t.program.Mirrored := h.program ▸ mirrored.foldl_register fs
    -- The table lists registered methods only, so a new one is a new implementor everywhere.
    have unlisted : t.program.dispatch.lists m f.method = false := by
      rw [Dispatch.lists, ← Bool.not_eq_true, List.contains_iff_mem]
      intro listed
      obtain ⟨r, hr, _⟩ := (mirrored m f.method).mp listed
      simp [new] at hr
    rw [Program.gains_trans h.extends (Program.extends_register t.program f),
      Program.gains_register new, ← h.mem_widened m]
    simp [unlisted]

theorem Registers.registerMethod (mirrored : s.program.Mirrored) (h : s.Registers fs t done)
    (f : Facts) :
    s.Registers (fs ++ [f].filter (!·.isAbstract)) (Session.registerMethod (t, done) f).1
      (Session.registerMethod (t, done) f).2 := by
  rw [Session.registerMethod]
  by_cases bodiless : f.isAbstract = true
  · simp only [bodiless, if_true]
    simpa [bodiless] using h.quiet_right (quiet_tally t _) rfl rfl
  · have noted := quiet_noteAll t (f.error.map (.extractionFailed f.method)).toList
    have h := h.quiet_right noted rfl rfl
    simp only [bodiless, if_false, Bool.false_eq_true, List.filter_cons, List.filter_nil,
      Bool.not_false, if_true]
    split
    case isTrue known =>
      exact (h.known known).quiet_right ((quiet_note _ _).trans (quiet_tally _ _)) rfl rfl
    case isFalse new =>
      rw [Registry.contains_eq_isSome_find?, Option.not_isSome_iff_eq_none] at new
      exact h.new mirrored new _ _

theorem registers_registerUnit (mirrored : s.program.Mirrored) (u : SourceUnit) :
    s.Registers u.bodies (s.registerUnit u).1 (s.registerUnit u).2 := by
  have methods : ∀ fs : List Facts, s.Registers (fs.filter (!·.isAbstract))
      (fs.foldl registerMethod (s, {})).1 (fs.foldl registerMethod (s, {})).2 := by
    intro fs
    induction fs using List.reverseRecOn with
    | nil => exact registers_nil s
    | append_singleton fs f ih =>
      rw [List.foldl_append, List.filter_append]
      exact ih.registerMethod mirrored f
  exact (methods u.methods).quiet_right (quiet_note _ _) rfl rfl

end Register

section Resolve

theorem Resolves.of_quiet (q : s.Quiet t) (h : t.Resolves name eps verdict s') :
    s.Resolves name eps verdict s' where
  finalized n := by rw [← q.finalized]; exact h.finalized n
  blocked n := by rw [← q.blocked]; exact h.blocked n
  waitList n := by
    have same : s.deferredBy name eps verdict = t.deferredBy name eps verdict := by
      cases verdict <;> simp only [deferredBy, q.waitList, q.program]
    rw [same, ← q.waitList]
    exact h.waitList n
  settings := h.settings.trans q.settings
  program := h.program.trans q.program
  fits := by rw [← q.program, ← q.settings]; exact h.fits
  report := by
    rw [h.report, survey, survey, q.program, q.settings]
  offered := by rw [← q.offered]; exact h.offered
  readers m n := by
    rw [h.readers, survey, survey, q.program, q.settings, q.readers]
  valid valid := h.valid (q.waitList ▸ valid)

/-- The reports of a list are resolved one after the other, with the verdicts that `results` lists. -/
inductive ResolvesAll :
    Session → List (String × List MethodId) → List (String × Verdict) → Session → Prop where
  | done {first last : Session} (quiet : first.Quiet last) : ResolvesAll first [] [] last
  | next {first second last : Session} {name : String} {eps : List MethodId} {verdict : Verdict}
      {calls : List (String × List MethodId)} {results : List (String × Verdict)}
      (step : first.Resolves name eps verdict second) (rest : ResolvesAll second calls results last) :
      ResolvesAll first ((name, eps) :: calls) ((name, verdict) :: results) last

theorem ResolvesAll.of_quiet (q : s.Quiet t) (h : t.ResolvesAll calls results s') :
    s.ResolvesAll calls results s' := by
  cases h with
  | done quiet => exact .done (q.trans quiet)
  | next step rest => exact .next (step.of_quiet q) rest

theorem ResolvesAll.preserves {P : Session → Prop} (h : s.ResolvesAll calls results s')
    (quiet : ∀ {a b : Session}, a.Quiet b → P a → P b)
    (step : ∀ {a b : Session} {name eps verdict}, a.Resolves name eps verdict b → P a → P b)
    (start : P s) : P s' := by
  induction h with
  | done q => exact quiet q start
  | next first _ ih => exact ih (step first start)

theorem ResolvesAll.program (h : s.ResolvesAll calls results s') : s'.program = s.program := by
  induction h with
  | done quiet => exact quiet.program
  | next step _ ih => exact ih.trans step.program

theorem ResolvesAll.settings (h : s.ResolvesAll calls results s') : s'.settings = s.settings := by
  induction h with
  | done quiet => exact quiet.settings
  | next step _ ih => exact ih.trans step.settings

/-- Each report of the list has one verdict. -/
theorem ResolvesAll.names (h : s.ResolvesAll calls results s') :
    results.map (·.1) = calls.map (·.1) := by
  induction h with
  | done => rfl
  | next _ _ ih => rw [List.map_cons, List.map_cons, ih]

theorem Resolves.names_offered (resolved : s.Resolves name eps verdict s') :
    s'.offered.map (·.name) =
      s.offered.map (·.name) ++ if verdict.isFinalized then [name] else [] := by
  have named : verdict.report.name = name := resolved.report ▸ rfl
  rw [resolved.offered, List.map_append]
  split <;> simp [named]

/-- The reports that are handed over are those with a final verdict. -/
theorem ResolvesAll.names_offered (all : s.ResolvesAll calls results s') :
    s'.offered.map (·.name) =
      s.offered.map (·.name) ++ (results.filter (·.2.isFinalized)).map (·.1) := by
  induction all with
  | done quiet => simp [quiet.offered]
  | @next first second last name eps verdict calls results step rest ih =>
    rw [ih, step.names_offered]
    cases final : verdict.isFinalized <;> simp [final]

theorem resolvesAll_handleUnit (s : Session) (u : SourceUnit) :
    s.ResolvesAll u.calls ((s.handleUnit u).2.toList.map (u.name, ·)) (s.handleUnit u).1 ∧
      (if (s.handleUnit u).2.isSome then [u.name] else []) = u.calls.map (·.1) := by
  unfold handleUnit SourceUnit.calls
  cases u.entryPoints with
  | nil => exact ⟨.done (Quiet.refl s), rfl⟩
  | cons e rest =>
    simp only [reduceCtorEq, if_false]
    exact ⟨.next (handle_resolves s _ _) (.done (Quiet.refl _)), rfl⟩

theorem resolvesAll_retry (entries : List Deferred) (s : Session)
    (acc : List (String × Verdict)) :
    ∃ results, (entries.foldl retry (s, acc)).2 = acc ++ results ∧
      s.ResolvesAll (entries.map fun e => (e.name, e.entryPoints)) results
        (entries.foldl retry (s, acc)).1 := by
  induction entries generalizing s acc with
  | nil => exact ⟨[], (List.append_nil acc).symm, .done (Quiet.refl s)⟩
  | cons entry rest ih =>
    let t : Session := s.beginRetry entry.name
    have first := (handle_resolves t entry.name entry.entryPoints).of_quiet
      ((quiet_note s _).trans (quiet_tally _ _))
    obtain ⟨results, listed, all⟩ := ih (t.handle entry.name entry.entryPoints).1
      (acc ++ [(entry.name, (t.handle entry.name entry.entryPoints).2)])
    refine ⟨_ :: results, ?_, .next first all⟩
    rw [List.append_cons]
    exact listed

/-- Reports that are not written are passed over. -/
theorem resolvesAll_refresh (names : List String) (distinct : names.Nodup) (s : Session)
    (acc : List (String × Verdict)) :
    ∃ calls results, (names.foldl refresh (s, acc)).2 = acc ++ results ∧
      s.ResolvesAll calls results (names.foldl refresh (s, acc)).1 ∧
      (calls.map (·.1)).Sublist names ∧
      ∀ n eps, (n, eps) ∈ calls ↔ n ∈ names ∧ s.finalized[n]? = some eps := by
  induction names generalizing s acc with
  | nil =>
    exact ⟨[], [], (List.append_nil acc).symm, .done (Quiet.refl s), List.Sublist.refl _, by simp⟩
  | cons name rest ih =>
    obtain ⟨new, distinct⟩ := List.nodup_cons.mp distinct
    rw [List.foldl_cons, refresh]
    cases written : s.finalized[name]? with
    | none =>
      obtain ⟨calls, results, listed, all, sublist, mem⟩ := ih distinct s acc
      refine ⟨calls, results, listed, all, sublist.cons name, fun n eps => ?_⟩
      rw [mem, List.mem_cons, or_and_right]
      refine (or_iff_right ?_).symm
      rintro ⟨rfl, again⟩
      simp [written] at again
    | some eps =>
      let t : Session := s.beginRefresh name
      have first := (handle_resolves t name eps).of_quiet
        ((quiet_note s _).trans (quiet_tally _ _))
      obtain ⟨calls, results, listed, all, sublist, mem⟩ := ih distinct (t.handle name eps).1
        (acc ++ [(name, (t.handle name eps).2)])
      refine ⟨(name, eps) :: calls, _ :: results, ?_, .next first all, sublist.cons_cons name,
        fun n eps' => ?_⟩
      · rw [List.append_cons]
        exact listed
      -- The resolution of `name` does not change which of the others are written.
      rw [List.mem_cons, mem, first.finalized, List.mem_cons, Prod.mk.injEq]
      by_cases hn : name = n
      · subst hn
        simpa [new, written] using eq_comm
      · simp [hn, Ne.symm hn]

theorem mem_readersOf {interfaces : MethodSet} {settled : List String} :
    n ∈ s.readersOf interfaces settled ↔
      n ∉ settled ∧ ∃ m ∈ interfaces, n ∈ s.readers.getD m ∅ := by
  simp [readersOf, and_comm]

end Resolve

section OneName

/-- Nothing has happened to the report `n` between `s` and `s'`. -/
structure SameAt (s s' : Session) (n : String) : Prop where
  finalized : s'.finalized[n]? = s.finalized[n]?
  blocked : s'.blocked[n]? = s.blocked[n]?
  waitList : s'.waitList.find? n = s.waitList.find? n

theorem SameAt.trans (h : s.SameAt t n) (h' : t.SameAt s' n) : s.SameAt s' n :=
  ⟨h'.finalized.trans h.finalized, h'.blocked.trans h.blocked, h'.waitList.trans h.waitList⟩

theorem SameReports.sameAt (same : s.SameReports s') (n : String) : s.SameAt s' n :=
  ⟨by rw [same.finalized], by rw [same.blocked], by rw [same.waitList]⟩

theorem Resolves.sameAt (resolved : s.Resolves name eps verdict s') (other : name ≠ n) :
    s.SameAt s' n where
  finalized := by rw [resolved.finalized, if_neg other]
  blocked := by rw [resolved.blocked, if_neg other]
  waitList := by rw [resolved.waitList, if_neg other]

theorem ResolvesAll.sameAt (all : s.ResolvesAll calls results s') (others : n ∉ calls.map (·.1)) :
    s.SameAt s' n := by
  induction all with
  | done quiet => exact quiet.sameAt n
  | next step _ ih =>
    rw [List.map_cons, List.mem_cons, not_or] at others
    exact (step.sameAt (Ne.symm others.1)).trans (ih others.2)

end OneName

/-- The reports that `arrived` releases from the wait-list. -/
def released (s : Session) (arrived : List MethodId) : List (String × List MethodId) :=
  (WaitList.inNameOrder (s.waitList.releaseEach arrived).2).map fun e => (e.name, e.entryPoints)

/-- The analysis without the entries that `arrived` releases. -/
def releasing (s : Session) (arrived : List MethodId) : Session :=
  { s with waitList := (s.waitList.releaseEach arrived).1 }

theorem mem_released {arrived : List MethodId} (valid : s.waitList.Valid) :
    (n, eps) ∈ s.released arrived ↔
      ∃ d, s.waitList.find? n = some d ∧ d.awaiting? arrived = none ∧ d.entryPoints = eps := by
  simp only [released, List.mem_map, Prod.mk.injEq]
  constructor
  · rintro ⟨entry, hentry, rfl, rfl⟩
    obtain ⟨k, d, hd, last, rfl⟩ := (WaitList.mem_inNameOrder_releaseEach valid arrived).mp hentry
    refine ⟨d, ?_, last, rfl⟩
    rw [Deferred.freed, (valid.proper k d hd).named]
    exact hd
  · rintro ⟨d, hd, last, rfl⟩
    refine ⟨d.freed, ?_, (valid.proper n d hd).named, rfl⟩
    exact (WaitList.mem_inNameOrder_releaseEach valid arrived).mpr ⟨n, d, hd, last, rfl⟩

theorem mem_released_names {arrived : List MethodId} (valid : s.waitList.Valid) :
    n ∈ (s.released arrived).map (·.1) ↔
      ∃ d, s.waitList.find? n = some d ∧ d.awaiting? arrived = none := by
  rw [List.mem_map]
  constructor
  · rintro ⟨⟨_, eps⟩, call, rfl⟩
    obtain ⟨d, waits, last, _⟩ := (mem_released valid).mp call
    exact ⟨d, waits, last⟩
  · rintro ⟨d, waits, last⟩
    exact ⟨(n, d.entryPoints), (mem_released valid).mpr ⟨d, waits, last, rfl⟩, rfl⟩

/-- What stays on the wait-list waits for those of its methods that have not arrived. -/
theorem find?_releasing {arrived : List MethodId} (valid : s.waitList.Valid) {d : Deferred}
    (waits : (s.releasing arrived).waitList.find? n = some d) :
    ∃ old, s.waitList.find? n = some old ∧ d.entryPoints = old.entryPoints ∧
      ∀ m ∈ d.waitingFor, m ∈ old.waitingFor ∧ m ∉ arrived := by
  rw [releasing, WaitList.find?_releaseEach valid] at waits
  obtain ⟨old, known, left⟩ := Option.bind_eq_some_iff.mp waits
  obtain ⟨_, entryPoints, _, waitingFor⟩ := Deferred.awaiting?_eq_some left
  exact ⟨old, known, entryPoints, fun m hm => (waitingFor m).mp hm⟩

/-- What is released waits no more. -/
theorem find?_releasing_of_released {arrived : List MethodId} (valid : s.waitList.Valid)
    (listed : n ∈ (s.released arrived).map (·.1)) :
    (s.releasing arrived).waitList.find? n = none := by
  obtain ⟨d, waits, last⟩ := (mem_released_names valid).mp listed
  rw [releasing, WaitList.find?_releaseEach valid, waits, Option.bind_some, last]

theorem nodup_released (valid : s.waitList.Valid) (arrived : List MethodId) :
    ((s.released arrived).map (·.1)).Nodup := by
  rw [released, List.map_map]
  exact WaitList.nodup_inNameOrder_releaseEach valid arrived

/-- The phases in which a unit is taken in, with the verdicts that its outcome lists. Of the written
reports those are resolved `again` that read a widened interface and were not resolved before. -/
inductive Absorbs (s : Session) (u : SourceUnit) (s' : Session) (outcome : Outcome) : Prop where
  | intro (done : Registration) (s₁ s₂ s₃ : Session) (again : List (String × List MethodId))
      (registered : s.Registers u.bodies s₁ done)
      (own : s₁.ResolvesAll u.calls (outcome.verdict.toList.map (u.name, ·)) s₂)
      (retried : (s₂.releasing done.announced).ResolvesAll (s₂.released done.announced)
        outcome.retried s₃)
      (refreshed : s₃.ResolvesAll again outcome.refreshed s')
      (mem_again : ∀ n eps, (n, eps) ∈ again ↔
        (n ∉ u.calls.map (·.1) ++ (s₂.released done.announced).map (·.1) ∧
          ∃ m ∈ done.widened, n ∈ s₃.readers.getD m ∅) ∧ s₃.finalized[n]? = some eps)
      (increasing : Increasing (again.map (·.1)))

theorem absorbs_absorbUnit (mirrored : s.program.Mirrored) (u : SourceUnit) :
    s.Absorbs u (s.absorbUnit u).1 (s.absorbUnit u).2 := by
  have registered := registers_registerUnit mirrored u
  obtain ⟨own, ownNames⟩ := resolvesAll_handleUnit (s.registerUnit u).1 u
  let s₂ := ((s.registerUnit u).1.handleUnit u).1
  let announced := (s.registerUnit u).2.announced
  obtain ⟨results, listed, retried⟩ := resolvesAll_retry
    (WaitList.inNameOrder (s₂.waitList.releaseEach announced).2)
    ((s₂.releasing announced).noteAll
      ((s₂.waitList.releaseEach announced).2.map fun r => .reportUnblocked r.entry.name r.unblockedBy))
    []
  have listed : (s₂.retryReleased announced).2 = results := listed
  have names : (s₂.retryReleased announced).2.map (·.1) = (s₂.released announced).map (·.1) :=
    listed ▸ retried.names
  let readers := (s₂.retryReleased announced).1.readersOf (s.registerUnit u).2.widened
    (resolvedNames u ((s.registerUnit u).1.handleUnit u).2 (s₂.retryReleased announced).2)
  obtain ⟨again, results', listed', refreshed, sublist, mem⟩ := resolvesAll_refresh readers.toList
    (nodup_toList readers) (s₂.retryReleased announced).1 []
  have listed' : (s.absorbUnit u).2.refreshed = results' := listed'
  refine .intro _ _ s₂ _ again registered own ?_ (listed' ▸ refreshed) (fun n eps => ?_)
    ((increasing_toList readers).sublist sublist)
  · rw [show (s.absorbUnit u).2.retried = results from listed]
    exact retried.of_quiet (quiet_noteAll _ _)
  · rw [mem, Std.ExtTreeSet.mem_toList, mem_readersOf, resolvedNames, ownNames, names]

theorem Absorbs.settings {u : SourceUnit} {outcome : Outcome} (h : s.Absorbs u s' outcome) :
    s'.settings = s.settings := by
  obtain ⟨done, s₁, s₂, s₃, again, registered, own, retried, refreshed, _⟩ := h
  calc s'.settings = s₃.settings := refreshed.settings
    _ = s₂.settings := retried.settings
    _ = s₁.settings := own.settings
    _ = s.settings := registered.settings

theorem Absorbs.program {u : SourceUnit} {outcome : Outcome} (h : s.Absorbs u s' outcome) :
    s'.program = u.bodies.foldl Program.register s.program := by
  obtain ⟨done, s₁, s₂, s₃, again, registered, own, retried, refreshed, _⟩ := h
  calc s'.program = s₃.program := refreshed.program
    _ = s₂.program := retried.program
    _ = s₁.program := own.program
    _ = u.bodies.foldl Program.register s.program := registered.program

theorem ingest_skipped {u : SourceUnit} (skips : s.settings.skipsUnit u.name = true) :
    (s.ingest u).2 = { skipped := true } := by
  simp only [ingest, skips, if_true]

/-- What taking in a unit does. -/
theorem ingest_cases (mirrored : s.program.Mirrored) (u : SourceUnit) :
    s.settings.skipsUnit u.name = true ∧ s.Quiet (s.ingest u).1 ∨
      s.settings.skipsUnit u.name = false ∧ s.Absorbs u (s.ingest u).1 (s.ingest u).2 := by
  have seen := quiet_tally s { s.tally with unitsSeen := s.tally.unitsSeen + 1 }
  rw [ingest]
  cases skips : s.settings.skipsUnit u.name with
  | true =>
    simp only [if_true]
    exact .inl ⟨trivial, seen.trans ((quiet_note _ _).trans (quiet_tally _ _))⟩
  | false =>
    simp only [Bool.false_eq_true, if_false]
    obtain ⟨done, s₁, s₂, s₃, again, registered, own, retried, refreshed, mem, increasing⟩ :=
      absorbs_absorbUnit (s := s.countUnit) mirrored u
    exact .inr ⟨trivial, .intro done s₁ s₂ s₃ again (registered.quiet_left seen) own retried refreshed
      mem increasing⟩

end Session

end DataTrail
