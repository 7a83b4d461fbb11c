import Mathlib.Data.List.Nodup
import DataTrail.Proofs.Freshness
import DataTrail.Proofs.Growth
import DataTrail.Proofs.Standing

/-! Which written reports a unit resolves again. The readers of an interface are never forgotten, so
they tell of every earlier resolution of a report. As long as a report is asked for with one list of
entry points, all it ever read was reached from these; and where interfaces and bodies are apart, it
is reached still. So for a written report the readers are just what a new survey would expand, and
the unit resolves those again that expand an interface with a new implementor. -/

namespace DataTrail

/-- A method gains an implementor if the table of the later program lists one more. -/
theorem Program.Extends.gains_iff {p q : Program} (h : p.Extends q) (hp : p.Mirrored)
    (hq : q.Mirrored) {m : MethodId} :
    p.Gains q m ↔ ∃ j ∈ q.dispatch.implementors m, j ∉ p.dispatch.implementors m := by
  constructor
  · rintro ⟨j, r, new, known, hm⟩
    refine ⟨j, (hq m j).mpr ⟨r, known, hm⟩, fun listed => ?_⟩
    obtain ⟨r', known', _⟩ := (hp m j).mp listed
    simp [new] at known'
  · rintro ⟨j, listed, unlisted⟩
    obtain ⟨r, known, hm⟩ := (hq m j).mp listed
    refine ⟨j, r, ?_, known, hm⟩
    by_contra old
    obtain ⟨r', old⟩ := Option.ne_none_iff_exists'.mp old
    have same := h j r' old
    rw [known, Option.some.injEq] at same
    exact unlisted ((hp m j).mpr ⟨r', old, same ▸ hm⟩)

namespace Session

variable {s s' : Session} {name n : String} {eps eps' : List MethodId} {verdict : Verdict}
  {calls : List (String × List MethodId)} {results : List (String × Verdict)} {u : SourceUnit}
  {outcome : Outcome} {m : MethodId}

/-- The report `n` is nowhere with other entry points than `eps`, and what it is known to have read
was reached from these when it was read. -/
structure AskedAs (s : Session) (n : String) (eps : List MethodId) : Prop where
  written : ∀ eps', s.finalized[n]? = some eps' → eps' = eps
  waiting : ∀ d, s.waitList.find? n = some d → d.entryPoints = eps
  reads : ∀ m, n ∈ s.readers.getD m ∅ → ∃ origin : Program, origin.Mirrored ∧
    origin.Extends s.program ∧ origin.ReachedFrom eps m ∧ origin.dispatch.isImplemented m

theorem SameReports.askedAs (same : s.SameReports s') (grows : s.program.Extends s'.program)
    (h : s.AskedAs n eps) : s'.AskedAs n eps where
  written := by rw [same.finalized]; exact h.written
  waiting := by rw [same.waitList]; exact h.waiting
  reads m hm := by
    rw [same.readers] at hm
    obtain ⟨origin, mirrored, earlier, reached⟩ := h.reads m hm
    exact ⟨origin, mirrored, earlier.trans grows, reached⟩

theorem Quiet.askedAs (quiet : s.Quiet s') : s.AskedAs n eps → s'.AskedAs n eps :=
  quiet.toSameReports.askedAs (quiet.program ▸ .refl _)

theorem Resolves.askedAs (resolved : s.Resolves name eps' verdict s') (mirrored : s.program.Mirrored)
    (distinct : eps.Nodup) (call : name = n → eps' = eps) (h : s.AskedAs n eps) :
    s'.AskedAs n eps := by
  refine ⟨fun eps₁ written => ?_, fun d waits => ?_, fun m reads => ?_⟩
  · rw [resolved.finalized] at written
    split at written
    case isTrue same =>
      have : eps' = eps₁ := by simpa using (Option.ite_none_right_eq_some.mp written).2
      exact this ▸ call same
    case isFalse => exact h.written eps₁ written
  · rw [resolved.waitList] at waits
    split at waits
    case isFalse => exact h.waiting d waits
    case isTrue same =>
      subst same
      cases verdict with
      | finalized report => exact h.waiting d waits
      | blocked part external => exact absurd waits.symm (Option.some_ne_none d)
      | pending part waitingFor =>
        rw [deferredBy, call rfl, Option.some.injEq] at waits
        exact waits ▸ WaitList.entryPoints_deferral_self distinct h.waiting
  · rcases (resolved.readers m n).mp reads with old | ⟨_, read, same⟩
    · rw [resolved.program]
      exact h.reads m old
    · obtain ⟨reached, implemented⟩ := Program.mem_interfaces_survey.mp read
      exact ⟨s.program, mirrored, resolved.program ▸ .refl _, call same ▸ reached, implemented⟩

theorem ResolvesAll.askedAs (all : s.ResolvesAll calls results s') (mirrored : s.program.Mirrored)
    (distinct : eps.Nodup) (asks : ∀ eps', (n, eps') ∈ calls → eps' = eps) (h : s.AskedAs n eps) :
    s'.AskedAs n eps := by
  induction all with
  | done quiet => exact quiet.askedAs h
  | @next first second last name eps' verdict calls results step rest ih =>
    have first : second.AskedAs n eps := by
      refine step.askedAs mirrored distinct ?_ h
      rintro rfl
      exact asks eps' List.mem_cons_self
    exact ih (step.program ▸ mirrored) (fun eps' call => asks eps' (List.mem_cons_of_mem _ call)) first

theorem AskedAs.releasing (h : s.AskedAs n eps) (valid : s.waitList.Valid)
    (arrived : List MethodId) : (s.releasing arrived).AskedAs n eps where
  written := h.written
  waiting d waits := by
    obtain ⟨old, known, entryPoints, _⟩ := find?_releasing valid waits
    exact entryPoints.trans (h.waiting old known)
  reads := h.reads

/-- A unit resolves a report with the entry points it had, unless it brings others. -/
theorem Absorbs.askedAs (absorbed : s.Absorbs u s' outcome) (sound : s.Sound) (distinct : eps.Nodup)
    (asks : u.name = n → u.entryPoints ≠ [] → u.entryPoints = eps) (h : s.AskedAs n eps) :
    s'.AskedAs n eps := by
  obtain ⟨done, s₁, s₂, s₃, again, registered, own, retried, refreshed, mem_again, _⟩ := absorbed
  have mirrored₁ : s₁.program.Mirrored := registered.program ▸ sound.mirrored.foldl_register u.bodies
  have mirrored₂ : s₂.program.Mirrored := own.program ▸ mirrored₁
  have mirrored₃ : s₃.program.Mirrored := retried.program ▸ mirrored₂
  have valid : s₂.waitList.Valid := own.valid (registered.waitList ▸ sound.valid)
  have at₂ : s₂.AskedAs n eps := by
    refine own.askedAs mirrored₁ distinct (fun eps' call => ?_) (registered.askedAs registered.extends h)
    obtain ⟨asked, rfl, rfl⟩ := SourceUnit.mem_calls.mp call
    exact asks rfl asked
  have at₃ : s₃.AskedAs n eps := by
    refine retried.askedAs mirrored₂ distinct (fun eps' call => ?_) (at₂.releasing valid done.announced)
    obtain ⟨d, waits, _, rfl⟩ := (mem_released valid).mp call
    exact at₂.waiting d waits
  exact refreshed.askedAs mirrored₃ distinct
    (fun eps' call => at₃.written eps' ((mem_again n eps').mp call).2) at₃

theorem askedAs_after {settings : Settings} {units : List SourceUnit} (distinct : eps.Nodup)
    (asks : ∀ v ∈ units, v.name = n → v.entryPoints ≠ [] → v.entryPoints = eps) :
    (after settings (units.map .ingest)).AskedAs n eps := by
  induction units using List.reverseRecOn with
  | nil =>
    constructor
    all_goals simp [after, start, WaitList.find?, WaitList.empty]
  | append_singleton units u ih =>
    have before := ih fun v hv => asks v (List.mem_append_left _ hv)
    have later : ((after settings (units.map .ingest)).ingest u).1.AskedAs n eps := by
      rcases ingest_after_cases settings units u with ⟨_, skipped⟩ | ⟨_, absorbed⟩
      · exact skipped.askedAs before
      · exact absorbed.askedAs (sound_after settings _) distinct (asks u (by simp)) before
    rw [after_ingest]
    exact ⟨later.written, later.waiting, later.reads⟩

section Distinct

variable {settings : Settings} {units : List SourceUnit}

theorem name_ne_of_distinct (distinct : ((units ++ [u]).map (·.name)).Nodup) :
    ∀ v ∈ units, v.name ≠ u.name := by
  rw [List.map_append, List.nodup_append] at distinct
  exact fun v hv => distinct.2.2 v.name (List.mem_map_of_mem hv) u.name (by simp)

/-- A name that no unit has is nowhere: whatever waits or is written under it would have any entry
points at all. -/
theorem idle_of_unasked (unasked : ∀ v ∈ units, v.name ≠ n) :
    (after settings (units.map .ingest)).waitList.find? n = none ∧
      (after settings (units.map .ingest)).finalized[n]? = none := by
  have asks (eps : List MethodId) :
      ∀ v ∈ units, v.name = n → v.entryPoints ≠ [] → v.entryPoints = eps :=
    fun v hv same => absurd same (unasked v hv)
  have without : (after settings (units.map .ingest)).AskedAs n [] :=
    askedAs_after List.nodup_nil (asks [])
  have withOne : (after settings (units.map .ingest)).AskedAs n [default] :=
    askedAs_after (List.nodup_singleton default) (asks [default])
  constructor
  · by_contra waits
    obtain ⟨d, waits⟩ := Option.ne_none_iff_exists'.mp waits
    simpa [without.waiting d waits] using withOne.waiting d waits
  · by_contra written
    obtain ⟨eps, written⟩ := Option.ne_none_iff_exists'.mp written
    simpa [without.written eps written] using withOne.written eps written

theorem not_torn_of_distinct (distinct : (units.map (·.name)).Nodup) (n : String) :
    ¬(after settings (units.map .ingest)).Torn n := by
  induction units using List.reverseRecOn with
  | nil => exact fun torn => torn.2 Std.ExtTreeMap.getElem?_empty
  | append_singleton units u ih =>
    have before : (units.map (·.name)).Nodup :=
      distinct.sublist ((List.sublist_append_left units [u]).map _)
    rw [torn_after_iff (ih before) u]
    intro splits
    obtain ⟨d, waits, _⟩ := splits.waits
    have idle : (after settings (units.map .ingest)).waitList.find? n = none :=
      (idle_of_unasked (splits.named ▸ name_ne_of_distinct distinct)).1
    simp [idle] at waits

/-- With distinct names, a report is only ever asked for as its own unit asks for it. -/
theorem exists_askedAs (distinct : (units.map (·.name)).Nodup) (n : String) :
    ∃ eps, (after settings (units.map .ingest)).AskedAs n eps := by
  by_cases named : ∃ v ∈ units, v.name = n
  · obtain ⟨v, hv, rfl⟩ := named
    refine ⟨v.entryPoints, askedAs_after (nodup_eraseDups _) fun w hw same _ => ?_⟩
    rw [List.inj_on_of_nodup_map distinct hw hv same]
  · exact ⟨[], askedAs_after List.nodup_nil fun v hv same => absurd ⟨v, hv, same⟩ named⟩

end Distinct

theorem ResolvesAll.mem_readers_iff (all : s.ResolvesAll calls results s')
    (others : n ∉ calls.map (·.1)) : n ∈ s'.readers.getD m ∅ ↔ n ∈ s.readers.getD m ∅ := by
  induction all with
  | done quiet => rw [quiet.readers]
  | next step _ ih =>
    rw [List.map_cons, List.mem_cons, not_or] at others
    rw [ih others.2, step.readers]
    exact or_iff_left fun read => others.1 read.2.2.symm

/-- Of the written reports that do not wait, those are resolved again that the unit does not ask for
and that are known to have read an interface with a new implementor. -/
theorem Absorbs.refreshes_iff (absorbed : s.Absorbs u s' outcome) (sound : s.Sound)
    (whole : ¬s.Torn n) :
    n ∈ outcome.refreshed.map (·.1) ↔ n ∉ u.calls.map (·.1) ∧ ∃ eps, s.finalized[n]? = some eps ∧
      ∃ m, n ∈ s.readers.getD m ∅ ∧ s.program.Gains s'.program m := by
  have now := absorbed.program
  obtain ⟨done, s₁, s₂, s₃, again, registered, own, retried, refreshed, mem_again, _⟩ := absorbed
  have valid : s₂.waitList.Valid := own.valid (registered.waitList ▸ sound.valid)
  rw [refreshed.names, now, ← registered.program, List.mem_map]
  -- A report that is retried was on the wait-list, and so it was not written.
  have untried (other : n ∉ u.calls.map (·.1)) (written : s.finalized[n]? ≠ none) :
      n ∉ (s₂.released done.announced).map (·.1) := by
    intro tried
    obtain ⟨d, waits, _⟩ := (mem_released_names valid).mp tried
    refine whole ⟨?_, written⟩
    rw [← ((registered.sameAt n).trans (own.sameAt other)).waitList, waits]
    exact Option.some_ne_none d
  -- Up to the refresh, nothing else has changed how a report is written and what it has read.
  have finalized (other : n ∉ u.calls.map (·.1))
      (tried : n ∉ (s₂.released done.announced).map (·.1)) : s₃.finalized[n]? = s.finalized[n]? := by
    rw [(retried.sameAt tried).finalized, ← registered.finalized]
    exact (own.sameAt other).finalized
  have readers (other : n ∉ u.calls.map (·.1))
      (tried : n ∉ (s₂.released done.announced).map (·.1)) (m : MethodId) :
      n ∈ s₃.readers.getD m ∅ ↔ n ∈ s.readers.getD m ∅ := by
    rw [retried.mem_readers_iff tried, ← registered.readers]
    exact own.mem_readers_iff other
  constructor
  · rintro ⟨⟨_, eps⟩, call, rfl⟩
    obtain ⟨⟨unsettled, m, widened, read⟩, written⟩ := (mem_again _ eps).mp call
    rw [List.mem_append, not_or] at unsettled
    obtain ⟨other, tried⟩ := unsettled
    refine ⟨other, eps, (finalized other tried).symm.trans written, m, ?_, ?_⟩
    · exact (readers other tried m).mp read
    · exact (registered.mem_widened m).mp widened
  · rintro ⟨other, eps, written, m, read, gains⟩
    have tried := untried other (by simp [written])
    refine ⟨(n, eps), (mem_again n eps).mpr ⟨⟨?_, m, ?_, ?_⟩, ?_⟩, rfl⟩
    · rw [List.mem_append, not_or]
      exact ⟨other, tried⟩
    · exact (registered.mem_widened m).mpr gains
    · exact (readers other tried m).mpr read
    · exact (finalized other tried).trans written

theorem Absorbs.increasing_refreshed (absorbed : s.Absorbs u s' outcome) :
    Increasing (outcome.refreshed.map (·.1)) := by
  obtain ⟨_, _, _, _, _, _, _, _, refreshed, _, increasing⟩ := absorbed
  rw [refreshed.names]
  exact increasing

/-- Where interfaces and bodies are apart, a written report is known to have read just what a new
survey of it expands. -/
theorem mem_readers_iff_expanded {settings : Settings} {units : List SourceUnit}
    (distinct : (units.map (·.name)).Nodup)
    (layered : (after settings (units.map .ingest)).program.Layered)
    (written : (after settings (units.map .ingest)).finalized[n]? = some eps) :
    n ∈ (after settings (units.map .ingest)).readers.getD m ∅ ↔
      m ∈ ((after settings (units.map .ingest)).survey n eps).findings.interfaces := by
  have later := (sound_after settings (units.map .ingest)).mirrored
  constructor
  · intro read
    obtain ⟨eps', asked⟩ : ∃ eps', (after settings (units.map .ingest)).AskedAs n eps' :=
      exists_askedAs distinct n
    obtain rfl := asked.written eps written
    obtain ⟨origin, mirrored, grows, ⟨e, he, reaches⟩, implemented⟩ := asked.reads m read
    have kept := layered.not_overtaken grows later
    refine Program.mem_interfaces_survey.mpr ⟨⟨e, he, grows.reaches mirrored later kept reaches⟩, ?_⟩
    exact (grows.isImplemented_iff mirrored later).mpr (.inl implemented)
  · intro expanded
    have fresh := Recorder.freshBut_recorded settings units n
    rw [Recorder.session_recorded] at fresh
    obtain ⟨origin, _, backs, gains⟩ := fresh eps written
    have stands : origin.Stands (after settings (units.map .ingest)).program eps :=
      ⟨backs.mirrored, backs.grows, backs.known, gains⟩
    have same := fun depth => (stands.survey_eq_iff later depth n).mpr fun m _ =>
      layered.not_overtaken backs.grows later m
    rw [survey, same] at expanded
    obtain ⟨reached, implemented⟩ := Program.mem_interfaces_survey.mp expanded
    exact backs.reads m reached implemented

end Session

open Session

/-- For units of distinct names and with interfaces and bodies apart, a unit resolves again just the
written reports that expand an interface to which it adds an implementor, each once and in the order
of the names. -/
theorem Session.refreshed_exactly_when_affected (settings : Settings) (units : List SourceUnit)
    (u : SourceUnit) (distinct : ((units ++ [u]).map (·.name)).Nodup)
    (layered : (after settings ((units ++ [u]).map .ingest)).program.Layered) :
    let s := after settings (units.map .ingest)
    let s' := (s.ingest u).1
    let refreshed := (s.ingest u).2.refreshed
    Increasing (refreshed.map (·.1)) ∧ ∀ n, n ∈ refreshed.map (·.1) ↔
      ∃ eps, s.finalized[n]? = some eps ∧ ∃ m ∈ (s.survey n eps).findings.interfaces,
        ∃ j ∈ s'.program.dispatch.implementors m, j ∉ s.program.dispatch.implementors m := by
  intro s s' refreshed
  have sound : s.Sound := sound_after settings (units.map .ingest)
  have grows : s.program.Extends s'.program := extends_ingest sound u
  have before : (units.map (·.name)).Nodup :=
    distinct.sublist ((List.sublist_append_left units [u]).map _)
  rw [after_ingest] at layered
  rcases ingest_cases sound.mirrored u with ⟨skips, skipped⟩ | ⟨_, absorbed⟩
  · have none : refreshed = [] := by simp only [refreshed, ingest_skipped skips]
    have unchanged : s'.program = s.program := skipped.program
    rw [none, unchanged]
    refine ⟨List.Pairwise.nil, fun n => iff_of_false List.not_mem_nil ?_⟩
    rintro ⟨eps, _, m, _, j, new, old⟩
    exact old new
  · refine ⟨absorbed.increasing_refreshed, fun n => ?_⟩
    have whole : ¬s.Torn n := not_torn_of_distinct before n
    have readers {eps m} (written : s.finalized[n]? = some eps) :
        n ∈ s.readers.getD m ∅ ↔ m ∈ (s.survey n eps).findings.interfaces :=
      mem_readers_iff_expanded before (layered.of_extends grows) written
    have gains {m} := grows.gains_iff (m := m) sound.mirrored (sound.ingest u).mirrored
    rw [absorbed.refreshes_iff sound whole]
    constructor
    · rintro ⟨_, eps, written, m, read, gained⟩
      exact ⟨eps, written, m, (readers written).mp read, gains.mp gained⟩
    · rintro ⟨eps, written, m, expands, new⟩
      refine ⟨fun asked => ?_, eps, written, m, (readers written).mpr expands, gains.mpr new⟩
      have own : u.name = n := (SourceUnit.mem_names_calls.mp asked).2
      have unwritten : s.finalized[n]? = none :=
        (idle_of_unasked (own ▸ name_ne_of_distinct distinct)).2
      simp [unwritten] at written

namespace Sample

/-- A page that loads from a store and a menu that reads a clock, with a store and a clock. -/
def kiosk : List SourceUnit :=
  [caller "Page" (method "Store" "load"), implementor "Disk" "Email" (method "Store" "load"),
    implementor "Quartz" "Time" (method "Clock" "now"), caller "Menu" (method "Clock" "now")]

/-- Another store. -/
def cloud : SourceUnit := implementor "Cloud" "Phone" (method "Store" "load")

end Sample

open Sample in
set_option maxRecDepth 10000 in
/-- Another store concerns the page, and not the menu. -/
theorem Session.refreshed_exactly_when_affected_cloud :
    let s := after {} (kiosk.map .ingest)
    let refreshed := (s.ingest cloud).2.refreshed
    (((kiosk ++ [cloud]).map (·.name)).Nodup ∧
      (after {} ((kiosk ++ [cloud]).map .ingest)).program.Layered) ∧
    (s.finalized["Page"]? = some [method "Page" "show"] ∧
      s.finalized["Menu"]? = some [method "Menu" "show"]) ∧
    Increasing (refreshed.map (·.1)) ∧ "Page" ∈ refreshed.map (·.1) ∧
      "Menu" ∉ refreshed.map (·.1) := by
  have distinct : ((kiosk ++ [cloud]).map (·.name)).Nodup := by decide +kernel
  have layered : (after {} ((kiosk ++ [cloud]).map .ingest)).program.Layered := by decide +kernel
  obtain ⟨increasing, each⟩ := refreshed_exactly_when_affected {} kiosk cloud distinct layered
  have ⟨page, menu⟩ :
      (after {} (kiosk.map .ingest)).finalized["Page"]? = some [method "Page" "show"] ∧
      (after {} (kiosk.map .ingest)).finalized["Menu"]? = some [method "Menu" "show"] := by
    decide +kernel
  refine ⟨⟨distinct, layered⟩, ⟨page, menu⟩, increasing, ?_, fun listed => ?_⟩
  · refine (each "Page").mpr ⟨_, page, method "Store" "load", ?_, method "Cloud" "go", ?_⟩
    · decide +kernel
    · decide +kernel
  · obtain ⟨eps, written, m, expands, j, new, notOld⟩ := (each "Menu").mp listed
    obtain rfl := Option.some_inj.mp (written.symm.trans menu)
    -- The menu expands the clock only, and no other clock has come.
    have old : ∀ m ∈ ((after {} (kiosk.map .ingest)).survey "Menu"
          [method "Menu" "show"]).findings.interfaces.toList,
        ∀ j ∈ ((after {} (kiosk.map .ingest)).ingest cloud).1.program.dispatch.implementors m,
          j ∈ (after {} (kiosk.map .ingest)).program.dispatch.implementors m := by decide +kernel
    exact notOld (old m (Std.ExtTreeSet.mem_toList.mpr expands) j new)

end DataTrail
