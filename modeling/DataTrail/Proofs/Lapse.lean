import DataTrail.Proofs.Refresh

/-! Which names have a written report. Nothing that is written is ever taken back. So a report that
was written, and that a new implementor then leaves waiting or blocked, has lapsed: its name is no
longer among the written ones, and the report is still there. With distinct names this is the only
way in which the reports that are there and the names that stand as written can come apart. -/

namespace DataTrail

namespace Session

variable {s s' : Session} {name n : String} {eps : List MethodId} {verdict : Verdict}
  {calls : List (String × List MethodId)} {results : List (String × Verdict)} {u : SourceUnit}
  {outcome : Outcome} {kept : List Report} {lapsed : Prop}

theorem ResolvesAll.mem_names_offered (all : s.ResolvesAll calls results s') :
    n ∈ (kept ++ s'.offered).map (·.name) ↔ n ∈ (kept ++ s.offered).map (·.name) ∨
      ∃ verdict, (n, verdict) ∈ results ∧ verdict.isFinalized := by
  rw [List.map_append, List.map_append, all.names_offered, ← List.append_assoc, List.mem_append]
  simp

/-- A report that is resolved stands as written just when its verdict is final. -/
theorem ResolvesAll.written_iff (all : s.ResolvesAll calls results s')
    (distinct : (calls.map (·.1)).Nodup) (listed : n ∈ calls.map (·.1)) :
    s'.finalized[n]? ≠ none ↔ ∃ verdict, (n, verdict) ∈ results ∧ verdict.isFinalized := by
  induction all with
  | done => exact absurd listed List.not_mem_nil
  | @next first second last name eps verdict calls results step rest ih =>
    rw [List.map_cons, List.nodup_cons] at distinct
    rw [List.map_cons, List.mem_cons] at listed
    by_cases own : name = n
    · subst own
      have others : ∀ verdict', (name, verdict') ∉ results := fun verdict' listed =>
        distinct.1 (rest.names ▸ List.mem_map_of_mem (f := (·.1)) listed)
      rw [(rest.sameAt distinct.1).finalized, step.finalized, if_pos rfl]
      simp [others]
    · rw [ih distinct.2 (listed.resolve_left (Ne.symm own))]
      simp [Ne.symm own]

/-- There is a report `n` just when it stands as written or has lapsed. -/
def Accounted (s : Session) (kept : List Report) (n : String) (lapsed : Prop) : Prop :=
  n ∈ (kept ++ s.offered).map (·.name) ↔ s.finalized[n]? ≠ none ∨ lapsed

theorem SameReports.accounted (same : s.SameReports s') (h : s.Accounted kept n lapsed) :
    s'.Accounted kept n lapsed := by
  rw [Accounted, same.offered, same.finalized]
  exact h

/-- Resolving a report that does not stand as written makes nothing lapse. -/
theorem ResolvesAll.accounted (all : s.ResolvesAll calls results s')
    (distinct : (calls.map (·.1)).Nodup)
    (unwritten : n ∈ calls.map (·.1) → s.finalized[n]? = none) (h : s.Accounted kept n lapsed) :
    s'.Accounted kept n lapsed := by
  rw [Accounted] at h ⊢
  rw [all.mem_names_offered, h]
  by_cases listed : n ∈ calls.map (·.1)
  · rw [all.written_iff distinct listed, unwritten listed]
    simp [or_comm]
  · have none : ∀ verdict, (n, verdict) ∉ results := fun verdict member =>
      listed (all.names ▸ List.mem_map_of_mem (f := (·.1)) member)
    rw [(all.sameAt listed).finalized]
    simp [none]

/-- Resolving a report that stands as written makes it lapse if the verdict is not final. -/
theorem ResolvesAll.accounted_of_written (all : s.ResolvesAll calls results s')
    (distinct : (calls.map (·.1)).Nodup)
    (written : n ∈ calls.map (·.1) → s.finalized[n]? ≠ none) (h : s.Accounted kept n lapsed) :
    s'.Accounted kept n
      (lapsed ∨ ∃ verdict, (n, verdict) ∈ results ∧ verdict.isFinalized = false) := by
  rw [Accounted] at h ⊢
  rw [all.mem_names_offered, h]
  by_cases listed : n ∈ calls.map (·.1)
  · obtain ⟨⟨_, eps⟩, call, rfl⟩ := List.mem_map.mp listed
    obtain ⟨verdict, member, _⟩ := all.settlesAt distinct call
    refine iff_of_true (.inl (.inl (written listed))) ?_
    rw [all.written_iff distinct listed]
    cases final : verdict.isFinalized with
    | true => exact .inl ⟨verdict, member, final⟩
    | false => exact .inr (.inr ⟨verdict, member, final⟩)
  · have none : ∀ verdict, (n, verdict) ∉ results := fun verdict member =>
      listed (all.names ▸ List.mem_map_of_mem (f := (·.1)) member)
    rw [(all.sameAt listed).finalized]
    simp [none]

/-- While a unit is taken in, only a refresh makes a report lapse, unless the name was waiting and
written at once or the unit asks for a name that stands as written. -/
theorem Absorbs.accounted (absorbed : s.Absorbs u s' outcome) (sound : s.Sound) (whole : ¬s.Torn n)
    (fresh : n ∈ u.calls.map (·.1) → s.waitList.find? n = none ∧ s.finalized[n]? = none)
    (h : s.Accounted kept n lapsed) :
    s'.Accounted kept n
      (lapsed ∨ ∃ verdict, (n, verdict) ∈ outcome.refreshed ∧ verdict.isFinalized = false) := by
  obtain ⟨done, s₁, s₂, s₃, again, registered, own, retried, refreshed, mem_again, increasing⟩ :=
    absorbed
  have valid : s₂.waitList.Valid := own.valid (registered.waitList ▸ sound.valid)
  have at₂ : s₂.Accounted kept n lapsed := by
    refine own.accounted u.nodup_calls (fun asked => ?_) (registered.accounted h)
    rw [registered.finalized]
    exact (fresh asked).2
  have whole₂ : ¬s₂.Torn n := by
    apply own.not_torn u.nodup_calls
    · rwa [(registered.sameAt n).torn_iff]
    · intro asked
      rw [registered.waitList]
      exact (fresh asked).1
  -- What is released was waiting, and so it was not written.
  have at₃ : s₃.Accounted kept n lapsed := by
    refine retried.accounted (nodup_released valid _) (fun released => ?_) at₂
    obtain ⟨d, waits, _⟩ := (mem_released_names valid).mp released
    by_contra written
    exact whole₂ ⟨by simp [waits], written⟩
  refine refreshed.accounted_of_written increasing.nodup (fun listed => ?_) at₃
  obtain ⟨⟨_, eps⟩, call, rfl⟩ := List.mem_map.mp listed
  simp [((mem_again _ eps).mp call).2]

theorem outcomes_append (s : Session) (units : List SourceUnit) (u : SourceUnit) :
    s.outcomes (units ++ [u]) =
      s.outcomes units ++ [(((units.map Request.ingest).foldl serve s).ingest u).2] := by
  induction units generalizing s with
  | nil => rfl
  | cons v rest ih => simp only [List.cons_append, outcomes, ih, List.map_cons, List.foldl_cons]

theorem outcomes_start_append (settings : Settings) (units : List SourceUnit) (u : SourceUnit) :
    (start settings).outcomes (units ++ [u]) =
      (start settings).outcomes units ++ [((after settings (units.map .ingest)).ingest u).2] :=
  outcomes_append (start settings) units u

end Session

namespace Recorder

open Session

/-- Some unit resolved the written report `n` again and left it waiting or blocked. -/
def Lapsed (outcomes : List Outcome) (n : String) : Prop :=
  ∃ outcome ∈ outcomes, ∃ verdict, (n, verdict) ∈ outcome.refreshed ∧ verdict.isFinalized = false

theorem lapsed_append {outcomes : List Outcome} {outcome : Outcome} {n : String} :
    Lapsed (outcomes ++ [outcome]) n ↔ Lapsed outcomes n ∨
      ∃ verdict, (n, verdict) ∈ outcome.refreshed ∧ verdict.isFinalized = false := by
  simp [Lapsed, or_and_right, exists_or]

theorem accounted_recorded (settings : Settings) {units : List SourceUnit}
    (distinct : (units.map (·.name)).Nodup) (n : String) :
    (after settings (units.map .ingest)).Accounted (recorded settings (units.map .ingest)).2 n
      (Lapsed ((Session.start settings).outcomes units) n) := by
  induction units using List.reverseRecOn with
  | nil =>
    have unwritten : (after settings []).finalized[n]? = none := Std.ExtTreeMap.getElem?_empty
    have empty : (recorded settings []).2 = [] := rfl
    rw [Accounted, List.map_nil, offered_after, empty, unwritten]
    simp [Lapsed, outcomes]
  | append_singleton units u ih =>
    have before : (units.map (·.name)).Nodup :=
      distinct.sublist ((List.sublist_append_left units [u]).map _)
    have kept := (recorded_append settings (units.map .ingest) (.ingest u)).2
    rw [session_recorded] at kept
    have taken : ((after settings (units.map .ingest)).ingest u).1.Accounted
        (recorded settings (units.map .ingest)).2 n
        (Lapsed ((Session.start settings).outcomes (units ++ [u])) n) := by
      rw [outcomes_start_append, lapsed_append]
      rcases ingest_after_cases settings units u with ⟨skips, skipped⟩ | ⟨_, absorbed⟩
      · have none : ((after settings (units.map .ingest)).ingest u).2.refreshed = [] := by
          rw [ingest_skipped (by rwa [settings_after])]
        have same := skipped.accounted (ih before)
        rw [none]
        simpa using same
      · refine absorbed.accounted (sound_after settings _) (not_torn_of_distinct before n) ?_
          (ih before)
        intro asked
        have named := (SourceUnit.mem_names_calls.mp asked).2
        exact idle_of_unasked (named ▸ name_ne_of_distinct distinct)
    have performed : (after settings ((units ++ [u]).map .ingest)).offered = [] :=
      offered_after settings _
    rw [Accounted, performed, List.append_nil, after_ingest, List.map_append, List.map_singleton,
      kept]
    exact taken

/-- With distinct names, there is a report of a name just when the name stands as written or has
lapsed; and what waits or is blocked does not stand as written. So a report that is unresolved has
been written just if it has lapsed. -/
theorem written_iff_stands_or_lapsed (settings : Settings) (units : List SourceUnit)
    (distinct : (units.map (·.name)).Nodup) (n : String) :
    let s := (recorded settings (units.map .ingest)).1.session
    let kept := (recorded settings (units.map .ingest)).2
    (n ∈ kept.map (·.name) ↔ s.finalized[n]? ≠ none ∨
        Lapsed ((Session.start settings).outcomes units) n) ∧
      (s.waitList.find? n ≠ none ∨ s.blocked[n]? ≠ none → s.finalized[n]? = none) := by
  intro s kept
  have session : s = after settings (units.map .ingest) := session_recorded settings _
  rw [session]
  constructor
  · have accounted := accounted_recorded settings distinct n
    rwa [Accounted, offered_after, List.append_nil] at accounted
  · rintro (waits | blocked)
    · by_contra written
      exact not_torn_of_distinct distinct n ⟨waits, written⟩
    · exact (blockedAlone_after settings _ n blocked).2

end Recorder

namespace Sample

/-- A store that sends mails. -/
def mailingStore : SourceUnit where
  name := "Cloud"
  methods :=
    [((Facts.bare (method "Cloud" "go")).calling mailer).implementing (method "Store" "load")]

/-- A page is written from one store, and then comes one that sends mails. -/
def lapse : List SourceUnit :=
  [implementor "Disk" "Email" (method "Store" "load"), caller "Page" (method "Store" "load"),
    mailingStore]

end Sample

open Sample in
set_option maxRecDepth 10000 in
/-- The page is blocked, and its report is there: the page has lapsed. -/
theorem Recorder.written_iff_stands_or_lapsed_mailing_store :
    let s := (recorded {} (lapse.map .ingest)).1.session
    let kept := (recorded {} (lapse.map .ingest)).2
    (lapse.map (·.name)).Nodup ∧ s.blocked["Page"]? ≠ none ∧
      ("Page" ∈ kept.map (·.name) ↔ s.finalized["Page"]? ≠ none ∨
        Lapsed ((Session.start {}).outcomes lapse) "Page") ∧
      (s.waitList.find? "Page" ≠ none ∨ s.blocked["Page"]? ≠ none →
        s.finalized["Page"]? = none) := by
  have distinct : (lapse.map (·.name)).Nodup := by decide +kernel
  refine ⟨distinct, ?_, written_iff_stands_or_lapsed {} lapse distinct "Page"⟩
  decide +kernel

open Sample in
set_option maxRecDepth 10000 in
/-- The report of a blocked page stays where it was written. -/
theorem Recorder.not_every_unresolved_report_is_unwritten :
    ¬∀ (settings : Settings) (units : List SourceUnit) (n : String),
      (units.map (·.name)).Nodup →
        let s := (recorded settings (units.map .ingest)).1.session
        s.waitList.find? n ≠ none ∨ s.blocked[n]? ≠ none →
          n ∉ (recorded settings (units.map .ingest)).2.map (·.name) := by
  intro unwritten
  have none := unwritten {} lapse "Page" (by decide +kernel) (.inr (by decide +kernel))
  revert none
  decide +kernel

end DataTrail
