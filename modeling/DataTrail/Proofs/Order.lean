import Mathlib.Data.List.Nodup
import DataTrail.Proofs.Freshness
import DataTrail.Proofs.Placement

/-! The order of the units does not matter, as long as names and methods are distinct, no method with
a body is implemented by another, and everything is of one namespace. What an analysis then ends
with is read off its last program: a report that was asked for is written if the program lacks
nothing that it reaches, and waits otherwise. The last program itself depends on the methods only,
not on their order. -/

namespace DataTrail

namespace Program

variable {fs gs : List Facts} {depth : Nat} {scope : String} {e j m : MethodId} {r : Record}

/-- The program of a list of methods. -/
def ofFacts (fs : List Facts) : Program := fs.foldl register {}

theorem mirrored_ofFacts (fs : List Facts) : (ofFacts fs).Mirrored :=
  Mirrored.empty.foldl_register fs

theorem find?_ofFacts :
    (ofFacts fs).registry.find? j = (fs.find? (·.method = j)).map .ofFacts := by
  rw [ofFacts, find?_foldl_register]
  exact Option.none_or

theorem exists_of_find?_ofFacts (h : (ofFacts fs).registry.find? j = some r) :
    ∃ f ∈ fs, f.method = j ∧ .ofFacts f = r := by
  rw [find?_ofFacts, Option.map_eq_some_iff] at h
  obtain ⟨f, hf, hr⟩ := h
  exact ⟨f, List.mem_of_find?_eq_some hf, by simpa using List.find?_some hf, hr⟩

theorem find?_ofFacts_eq_some (distinct : (fs.map (·.method)).Nodup) :
    (ofFacts fs).registry.find? j = some r ↔ ∃ f ∈ fs, f.method = j ∧ .ofFacts f = r := by
  refine ⟨exists_of_find?_ofFacts, ?_⟩
  rintro ⟨f, hf, rfl, rfl⟩
  cases found : fs.find? (·.method = f.method) with
  | none =>
    simpa using List.find?_eq_none.mp found f hf
  | some g =>
    have same : g.method = f.method := by simpa using List.find?_some found
    have same := List.inj_on_of_nodup_map distinct (List.mem_of_find?_eq_some found) hf same
    rw [find?_ofFacts, found, same, Option.map_some]

theorem lacks_congr {p q : Program} {eps : List MethodId} (agree : ∀ m, p.AgreeAt q m) :
    p.Lacks eps m ↔ q.Lacks eps m := by
  simp only [Lacks, reaches_congr fun m _ => agree m, (agree m).missing]

/-- The dispatch table says nothing that the registry does not say. -/
theorem Mirrored.agreeAt {p q : Program} (hp : p.Mirrored) (hq : q.Mirrored)
    (same : ∀ j, p.registry.find? j = q.registry.find? j) (m : MethodId) : p.AgreeAt q m := by
  have implemented : p.dispatch.isImplemented m = q.dispatch.isImplemented m := by
    rw [Bool.eq_iff_iff, hp.isImplemented_iff, hq.isImplemented_iff]
    simp only [same]
  refine ⟨implemented, ?_, fun r => ?_⟩
  · rw [Bool.eq_iff_iff, Program.isMissing_iff, Program.isMissing_iff, same, implemented]
  · by_cases hi : p.dispatch.isImplemented m = true
    · rw [hp.mem_recordsOf hi, hq.mem_recordsOf (implemented ▸ hi)]
      simp only [same]
    · rw [Bool.not_eq_true] at hi
      rw [mem_recordsOf_own hi, mem_recordsOf_own (implemented ▸ hi), same]

theorem agreeAt_ofFacts_of_perm (perm : fs.Perm gs) (distinct : (fs.map (·.method)).Nodup)
    (m : MethodId) : (ofFacts fs).AgreeAt (ofFacts gs) m := by
  have distinct' : (gs.map (·.method)).Nodup := (perm.map _).nodup_iff.mp distinct
  refine (mirrored_ofFacts fs).agreeAt (mirrored_ofFacts gs) (fun j => ?_) m
  refine Option.ext fun r => ?_
  rw [find?_ofFacts_eq_some distinct, find?_ofFacts_eq_some distinct']
  simp only [perm.mem_iff]

theorem not_overtaken_ofFacts (unimplemented : ∀ f ∈ fs, ∀ g ∈ gs, f.method ∉ g.implements) :
    ¬(ofFacts fs).Overtaken (ofFacts gs) m := by
  rintro ⟨registered, _, implemented⟩
  obtain ⟨r, hr⟩ := Option.ne_none_iff_exists'.mp registered
  obtain ⟨f, hf, rfl, _⟩ := exists_of_find?_ofFacts hr
  obtain ⟨j, r', hr', hm⟩ := (mirrored_ofFacts gs).isImplemented_iff.mp implemented
  obtain ⟨g, hg, _, rfl⟩ := exists_of_find?_ofFacts hr'
  exact unimplemented f hf g hg (by simpa [Record.ofFacts] using hm)

/-- Calls that stay in one namespace do not leave it. -/
theorem namespaceAt_of_reaches
    (callees : ∀ f ∈ fs, ∀ k ∈ f.callees, k.namespaceAt depth = scope)
    (start : e.namespaceAt depth = scope) (h : (ofFacts fs).Reaches e m) :
    m.namespaceAt depth = scope := by
  induction h with
  | refl => exact start
  | call _ hk _ =>
    obtain ⟨r, hr, hk⟩ := mem_calleesOf.mp hk
    obtain ⟨j, hj⟩ := find?_of_mem_recordsOf hr
    obtain ⟨f, hf, _, rfl⟩ := exists_of_find?_ofFacts hj
    exact callees f hf _ (by simpa [Record.ofFacts] using hk)

end Program

namespace Settings

variable (settings : Settings)

/-- The units that are not left out. -/
def taken (units : List SourceUnit) : List SourceUnit :=
  units.filter (!settings.skipsUnit ·.name)

/-- The methods with a body that are taken in. -/
def bodies (units : List SourceUnit) : List Facts := (settings.taken units).flatMap (·.bodies)

/-- The reports that are asked for. -/
def asked (units : List SourceUnit) : List (String × List MethodId) :=
  (settings.taken units).flatMap (·.calls)

variable {units units' : List SourceUnit}

theorem taken_perm (perm : units.Perm units') : (settings.taken units).Perm (settings.taken units') :=
  perm.filter _

theorem bodies_perm (perm : units.Perm units') :
    (settings.bodies units).Perm (settings.bodies units') :=
  (settings.taken_perm perm).flatMap_right _

theorem asked_perm (perm : units.Perm units') :
    (settings.asked units).Perm (settings.asked units') :=
  (settings.taken_perm perm).flatMap_right _

theorem bodies_append (later : List SourceUnit) :
    settings.bodies (units ++ later) = settings.bodies units ++ settings.bodies later := by
  simp [bodies, taken]

/-- What the last unit adds to a list that is read off the units one by one. -/
theorem flatMap_taken_append {β : Type} (f : SourceUnit → List β) (u : SourceUnit) :
    (settings.taken (units ++ [u])).flatMap f =
      (settings.taken units).flatMap f ++ if settings.skipsUnit u.name then [] else f u := by
  cases skips : settings.skipsUnit u.name <;> simp [taken, skips]

end Settings

/-- Units of which no two name the same thing, none implements what has a body, and none leaves the
one namespace. -/
structure OrderFree (settings : Settings) (units : List SourceUnit) : Prop where
  names : (units.map (·.name)).Nodup
  methods : ((settings.bodies units).map (·.method)).Nodup
  unimplemented : ∀ f ∈ settings.bodies units, ∀ g ∈ settings.bodies units, f.method ∉ g.implements
  scope : ∃ scope,
    (∀ u ∈ settings.taken units, ∀ e ∈ u.entryPoints,
      e.namespaceAt settings.namespaceDepth = scope) ∧
    ∀ f ∈ settings.bodies units, ∀ k ∈ f.callees, k.namespaceAt settings.namespaceDepth = scope

namespace OrderFree

variable {settings : Settings} {units units' later : List SourceUnit}

theorem perm (free : OrderFree settings units) (perm : units.Perm units') :
    OrderFree settings units' := by
  have taken := settings.taken_perm perm
  have bodies := settings.bodies_perm perm
  obtain ⟨scope, entryPoints, callees⟩ := free.scope
  refine ⟨(perm.map _).nodup_iff.mp free.names, (bodies.map _).nodup_iff.mp free.methods, ?_,
    scope, ?_, ?_⟩
  · intro f hf g hg
    exact free.unimplemented f (bodies.mem_iff.mpr hf) g (bodies.mem_iff.mpr hg)
  · intro u hu
    exact entryPoints u (taken.mem_iff.mpr hu)
  · intro f hf
    exact callees f (bodies.mem_iff.mpr hf)

theorem of_append (free : OrderFree settings (units ++ later)) : OrderFree settings units := by
  obtain ⟨names, methods, unimplemented, scope, entryPoints, callees⟩ := free
  rw [Settings.bodies_append] at methods unimplemented callees
  rw [List.map_append] at names methods
  refine ⟨(List.nodup_append.mp names).1, (List.nodup_append.mp methods).1, ?_, scope, ?_, ?_⟩
  · intro f hf g hg
    exact unimplemented f (List.mem_append_left _ hf) g (List.mem_append_left _ hg)
  · intro u hu
    refine entryPoints u ?_
    rw [Settings.taken, List.filter_append]
    exact List.mem_append_left _ hu
  · intro f hf
    exact callees f (List.mem_append_left _ hf)

theorem not_overtaken (free : OrderFree settings (units ++ later)) (m : MethodId) :
    ¬(Program.ofFacts (settings.bodies units)).Overtaken
      (Program.ofFacts (settings.bodies (units ++ later))) m := by
  refine Program.not_overtaken_ofFacts fun f hf g hg => free.unimplemented f ?_ g hg
  rw [Settings.bodies_append]
  exact List.mem_append_left _ hf

theorem orderly (free : OrderFree settings units) :
    Orderly (.ofFacts (settings.bodies units)) settings.namespaceDepth (settings.asked units) where
  unique n eps eps' h h' := by
    obtain ⟨u, hu, h⟩ := List.mem_flatMap.mp h
    obtain ⟨u', hu', h'⟩ := List.mem_flatMap.mp h'
    obtain ⟨_, rfl, rfl⟩ := SourceUnit.mem_calls.mp h
    obtain ⟨_, same, rfl⟩ := SourceUnit.mem_calls.mp h'
    rw [List.inj_on_of_nodup_map free.names (List.mem_of_mem_filter hu)
      (List.mem_of_mem_filter hu') same]
  distinct n eps h := by
    obtain ⟨u, _, h⟩ := List.mem_flatMap.mp h
    obtain ⟨_, _, rfl⟩ := SourceUnit.mem_calls.mp h
    exact nodup_eraseDups _
  inside n eps h := by
    rintro m ⟨e, he, reaches, _, outside⟩
    obtain ⟨u, hu, h⟩ := List.mem_flatMap.mp h
    obtain ⟨_, _, rfl⟩ := SourceUnit.mem_calls.mp h
    obtain ⟨scope, entryPoints, callees⟩ := free.scope
    have start := entryPoints u hu e he
    exact outside ((Program.namespaceAt_of_reaches callees start reaches).trans start.symm)

end OrderFree

namespace Session

variable {settings : Settings} {units : List SourceUnit}

theorem program_after (settings : Settings) (units : List SourceUnit) :
    (after settings (units.map .ingest)).program = .ofFacts (settings.bodies units) := by
  induction units using List.reverseRecOn with
  | nil => rfl
  | append_singleton units u ih =>
    rw [after_ingest, Settings.bodies, Settings.flatMap_taken_append, ← Settings.bodies, clearJournal,
      program_ingest (sound_after settings _), settings_after, ih]
    split
    · rw [List.append_nil]
    · rw [Program.ofFacts, ← List.foldl_append, Program.ofFacts]

/-- Every report that was asked for is written or waits, and there is no other. -/
theorem tracked_after (free : OrderFree settings units) (n : String) :
    (after settings (units.map .ingest)).Tracked (settings.asked units) n ∧
      (n ∈ (settings.asked units).map (·.1) →
        (after settings (units.map .ingest)).Placed n) := by
  induction units using List.reverseRecOn generalizing n with
  | nil =>
    refine ⟨⟨?_, ?_, ?_, ?_⟩, fun h => absurd h List.not_mem_nil⟩
    all_goals simp [after, start, WaitList.find?, WaitList.empty]
  | append_singleton units u ih =>
    have ih := ih free.of_append
    have program := program_after settings (units ++ [u])
    have depth := congrArg (·.namespaceDepth) (settings_after settings ((units ++ [u]).map .ingest))
    have orderly := free.orderly
    rw [after_ingest] at program depth ⊢
    rw [Settings.asked, Settings.flatMap_taken_append, ← Settings.asked] at orderly ⊢
    rcases ingest_after_cases settings units u with ⟨skips, quiet⟩ | ⟨takes, absorbed⟩
    · rw [skips, if_pos rfl, List.append_nil]
      have tracked := (quiet.sameAt n).tracked quiet.program (ih n).1
      -- Where the reports are does not depend on the journal, which is emptied after the unit.
      exact ⟨⟨tracked.written, tracked.waiting, tracked.reached, tracked.unblocked⟩,
        fun h => (quiet.sameAt n).placed.mpr ((ih n).2 h)⟩
    · rw [takes, if_neg Bool.false_ne_true] at orderly ⊢
      have kept := fun m => free.not_overtaken m
      rw [← program_after, ← program] at kept
      rw [← program] at orderly
      obtain ⟨tracked, placed⟩ := absorbed.tracked (sound_after settings _) kept (depth ▸ orderly)
        (fun k => (ih k).1) n
      refine ⟨⟨tracked.written, tracked.waiting, tracked.reached, tracked.unblocked⟩, fun h => ?_⟩
      rw [List.map_append, List.mem_append] at h
      exact placed (h.elim (fun old => .inr ((ih n).2 old)) .inl)

end Session

namespace Recorder

open Session

variable {settings : Settings} {units units' : List SourceUnit} {n : String} {eps : List MethodId}

/-- A written report is what its entry points give in the last program, which lacks nothing of it. -/
theorem written_up_to_date (free : OrderFree settings units)
    (written : (recorded settings (units.map .ingest)).1.session.finalized[n]? = some eps) :
    (∀ m, ¬(Program.ofFacts (settings.bodies units)).Lacks eps m) ∧
      Report.latest? (recorded settings (units.map .ingest)).2 n =
        some ((Program.ofFacts (settings.bodies units)).survey settings.namespaceDepth n eps).report := by
  obtain ⟨before, later, rfl, latest, stands⟩ := stands_recorded settings units written
  have same := (stands.survey_eq_iff (sound_after settings _).mirrored settings.namespaceDepth
    n).mpr fun m _ => by
      rw [program_after, program_after]
      exact free.not_overtaken m
  have complete : ((after settings (before.map .ingest)).program.survey
      settings.namespaceDepth n eps).findings.isComplete :=
    Program.isComplete_survey.mpr stands.known
  rw [← same, program_after] at latest complete
  exact ⟨Program.isComplete_survey_iff_lacks.mp complete, latest⟩

/-- A report that waits lacks something in the last program. -/
theorem waits_for_something (free : OrderFree settings units) {d : Deferred}
    (waits : (recorded settings (units.map .ingest)).1.session.waitList.find? n = some d) :
    (n, d.entryPoints) ∈ settings.asked units ∧
      ∃ m, (Program.ofFacts (settings.bodies units)).Lacks d.entryPoints m := by
  rw [session_recorded] at waits
  have sound := sound_after settings (units.map .ingest)
  obtain ⟨tracked, _⟩ := tracked_after free n
  obtain ⟨m, hm⟩ := exists_mem_of_ne_empty (sound.valid.proper n d waits).waits
  obtain ⟨e, he, reaches⟩ := tracked.reached d waits m hm
  have missing := (sound.awaits n d waits m hm).resolve_right List.not_mem_nil
  rw [program_after] at reaches missing
  exact ⟨tracked.waiting d waits, m, e, he, reaches, missing⟩

theorem finalized_eq_some_iff (free : OrderFree settings units) :
    (recorded settings (units.map .ingest)).1.session.finalized[n]? = some eps ↔
      (n, eps) ∈ settings.asked units ∧
        ∀ m, ¬(Program.ofFacts (settings.bodies units)).Lacks eps m := by
  obtain ⟨tracked, placed⟩ := tracked_after free n
  rw [← session_recorded] at tracked placed
  constructor
  · intro written
    exact ⟨tracked.written eps written, (written_up_to_date free written).1⟩
  · rintro ⟨request, complete⟩
    rcases placed (List.mem_map_of_mem (f := (·.1)) request) with written | waits
    · obtain ⟨eps', written⟩ := Option.ne_none_iff_exists'.mp written
      rw [written, free.orderly.unique n _ _ (tracked.written eps' written) request]
    · obtain ⟨d, waits⟩ := Option.ne_none_iff_exists'.mp waits
      obtain ⟨request', m, lacks⟩ := waits_for_something free waits
      rw [free.orderly.unique n _ _ request' request] at lacks
      exact absurd lacks (complete m)

theorem find?_ne_none_iff (free : OrderFree settings units) :
    (recorded settings (units.map .ingest)).1.session.waitList.find? n ≠ none ↔
      ∃ eps, (n, eps) ∈ settings.asked units ∧
        ∃ m, (Program.ofFacts (settings.bodies units)).Lacks eps m := by
  obtain ⟨tracked, placed⟩ := tracked_after free n
  rw [← session_recorded] at tracked placed
  constructor
  · intro waits
    obtain ⟨d, waits⟩ := Option.ne_none_iff_exists'.mp waits
    exact ⟨d.entryPoints, waits_for_something free waits⟩
  · rintro ⟨eps, request, m, lacks⟩
    refine (placed (List.mem_map_of_mem (f := (·.1)) request)).resolve_left fun written => ?_
    obtain ⟨eps', written⟩ := Option.ne_none_iff_exists'.mp written
    obtain ⟨request', complete⟩ := (finalized_eq_some_iff free).mp written
    exact complete m (free.orderly.unique n _ _ request request' ▸ lacks)

theorem blocked_eq_empty (free : OrderFree settings units) :
    (recorded settings (units.map .ingest)).1.session.blocked = ∅ := by
  rw [session_recorded]
  refine Std.ExtTreeMap.ext_getElem? fun n => ?_
  rw [(tracked_after free n).1.unblocked, Std.ExtTreeMap.getElem?_empty]

/-- Two orders of the same units end with the same reports written, each with the same text last
written, the same reports waiting, and none blocked. -/
theorem order_independent (perm : units.Perm units') (free : OrderFree settings units) :
    let s := (recorded settings (units.map .ingest)).1.session
    let s' := (recorded settings (units'.map .ingest)).1.session
    let kept := (recorded settings (units.map .ingest)).2
    let kept' := (recorded settings (units'.map .ingest)).2
    (∀ n, n ∈ s.finalized ↔ n ∈ s'.finalized) ∧
      (∀ n ∈ s.finalized, ∃ report,
        Report.latest? kept n = some report ∧ Report.latest? kept' n = some report) ∧
      (∀ n, s.waitList.find? n ≠ none ↔ s'.waitList.find? n ≠ none) ∧
      s.blocked = ∅ ∧ s'.blocked = ∅ := by
  intro s s' kept kept'
  -- Both ends are told by what is asked for and by the last program, and these agree.
  have free' := free.perm perm
  have asked : ∀ c, c ∈ settings.asked units ↔ c ∈ settings.asked units' := fun c =>
    (settings.asked_perm perm).mem_iff
  have agree := Program.agreeAt_ofFacts_of_perm (settings.bodies_perm perm) free.methods
  have finalized : ∀ n : String, s.finalized[n]? = s'.finalized[n]? := by
    intro n
    refine Option.ext fun eps => ?_
    rw [finalized_eq_some_iff free, finalized_eq_some_iff free', asked]
    simp only [Program.lacks_congr agree]
  refine ⟨fun n => ?_, fun n hn => ?_, fun n => ?_, blocked_eq_empty free, blocked_eq_empty free'⟩
  · rw [Std.ExtTreeMap.mem_iff_isSome_getElem?, Std.ExtTreeMap.mem_iff_isSome_getElem?, finalized n]
  · obtain ⟨eps, written⟩ :=
      Option.isSome_iff_exists.mp (Std.ExtTreeMap.mem_iff_isSome_getElem?.mp hn)
    have same : (Program.ofFacts (settings.bodies units)).survey settings.namespaceDepth n eps =
        (Program.ofFacts (settings.bodies units')).survey settings.namespaceDepth n eps :=
      Program.survey_congr _ n fun m _ => agree m
    refine ⟨_, (written_up_to_date free written).2, ?_⟩
    rw [same]
    exact (written_up_to_date free' (finalized n ▸ written)).2
  · rw [find?_ne_none_iff free, find?_ne_none_iff free']
    simp only [asked, Program.lacks_congr agree]

end Recorder

open Sample in
set_option maxRecDepth 10000 in
/-- A page that fans out over two implementors, and one that waits for ever. -/
theorem Recorder.order_independent_fan_out :
    let units := [caller "Page" (method "Store" "load"), caller "Form" (method "Mail" "send"),
      implementor "Disk" "Email" (method "Store" "load"),
      implementor "Cloud" "Phone" (method "Store" "load")]
    let s := (recorded {} (units.map .ingest)).1.session
    let s' := (recorded {} (units.reverse.map .ingest)).1.session
    let kept := (recorded {} (units.map .ingest)).2
    let kept' := (recorded {} (units.reverse.map .ingest)).2
    units.Perm units.reverse ∧ OrderFree {} units ∧
      (∀ n, n ∈ s.finalized ↔ n ∈ s'.finalized) ∧
      (∀ n ∈ s.finalized, ∃ report,
        Report.latest? kept n = some report ∧ Report.latest? kept' n = some report) ∧
      (∀ n, s.waitList.find? n ≠ none ↔ s'.waitList.find? n ≠ none) ∧
      s.blocked = ∅ ∧ s'.blocked = ∅ := by
  intro units s s' kept kept'
  have free : OrderFree {} units := by
    refine ⟨by decide +kernel, by decide +kernel, by decide +kernel, "org.shop.web.app", ?_, ?_⟩
    · decide +kernel
    · decide +kernel
  exact ⟨units.reverse_perm.symm, free, order_independent units.reverse_perm.symm free⟩

end DataTrail
