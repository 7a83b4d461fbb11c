import DataTrail.Proofs.Lapse
import DataTrail.Proofs.Tally

/-! The end of an analysis. What waits and what is blocked is listed by name, and is closed with
that: its name is nowhere from then on. An analysis may go on after its end, and its methods and its
readers of interfaces are still there; but what is nowhere is neither tried again nor written again,
until a unit of that name asks for it. -/

namespace DataTrail

/-- The list has the entries that `found` gives, in the order of their names. -/
structure Deferred.Lists (entries : List Deferred) (found : String → Option Deferred) : Prop where
  increasing : Increasing (entries.map (·.name))
  mem_iff : ∀ n d, found n = some d ↔ d ∈ entries ∧ d.name = n

theorem Deferred.lists_values {t : Std.ExtTreeMap String Deferred}
    (named : ∀ (n : String) (d : Deferred), t[n]? = some d → d.name = n) :
    Lists t.values (t[·]?) where
  increasing := by
    have keys : t.values.map (·.name) = t.keys := by
      rw [values_eq_map_toList, List.map_map, ← Std.ExtTreeMap.map_fst_toList_eq_keys]
      refine List.map_congr_left fun entry listed => ?_
      exact named _ _ (Std.ExtTreeMap.mem_toList_iff_getElem?_eq_some.mp listed)
    rw [keys]
    exact Std.ExtTreeMap.ordered_keys
  mem_iff n d := by
    simp only [values_eq_map_toList, List.mem_map, Prod.exists, exists_eq_right,
      Std.ExtTreeMap.mem_toList_iff_getElem?_eq_some]
    constructor
    · exact fun found => ⟨⟨n, found⟩, named n d found⟩
    · rintro ⟨⟨k, found⟩, rfl⟩
      rwa [named k d found]

namespace Session

variable {s : Session} {n : String} {u : SourceUnit} {outcomes : List Outcome}
  {reports : List Report}

theorem lists_finish (settings : Settings) (requests : List Request) :
    let s := after settings requests
    Deferred.Lists s.finish.2.unresolved s.waitList.find? ∧
      Deferred.Lists s.finish.2.external (s.blocked[·]?) := by
  intro s
  have valid : s.waitList.Valid := (sound_after settings requests).valid
  exact ⟨Deferred.lists_values fun n d waits => (valid.proper n d waits).named,
    Deferred.lists_values (named_blocked_after settings requests)⟩

section Gone

/-- No report `n` waits, is blocked or stands as written, and the outcomes and reports do not have
the name. -/
structure Gone (s : Session) (n : String) (outcomes : List Outcome) (reports : List Report) :
    Prop where
  waitList : s.waitList.find? n = none
  blocked : s.blocked[n]? = none
  finalized : s.finalized[n]? = none
  retried : ∀ outcome ∈ outcomes, n ∉ outcome.retried.map (·.1)
  refreshed : ∀ outcome ∈ outcomes, n ∉ outcome.refreshed.map (·.1)
  reports : ∀ report ∈ reports, report.name ≠ n

theorem gone_finish (unwritten : s.finalized[n]? = none) : (s.serve .finish).Gone n [] [] := by
  obtain ⟨journal, eq⟩ := finish_eq s
  rw [Session.serve, answer, eq]
  constructor
  all_goals simp [clearJournal, WaitList.find?, WaitList.empty, unwritten]

/-- What is gone stays gone while a unit of another name is taken in. -/
theorem Gone.ingest (gone : s.Gone n outcomes reports) (sound : s.Sound)
    (performed : s.offered = []) (other : u.name ≠ n) :
    (s.serve (.ingest u)).Gone n (outcomes ++ [(s.ingest u).2])
      (reports ++ (s.ingest u).1.offered) := by
  -- The name may still be among the readers; but a reader is resolved again only if it is written.
  have passes := passes_of_idle sound gone.waitList gone.finalized (.inr (.inr other))
  refine ⟨passes.sameAt.waitList.trans gone.waitList, passes.sameAt.blocked.trans gone.blocked,
    passes.sameAt.finalized.trans gone.finalized, ?_, ?_, ?_⟩
  · exact List.forall_mem_append.mpr ⟨gone.retried, List.forall_mem_singleton.mpr passes.retried⟩
  · exact List.forall_mem_append.mpr
      ⟨gone.refreshed, List.forall_mem_singleton.mpr passes.refreshed⟩
  · refine List.forall_mem_append.mpr ⟨gone.reports, fun report new same => ?_⟩
    have none := passes.offered report new same
    simp [performed] at none

theorem Gone.ingestAll (gone : s.Gone n outcomes reports) (sound : s.Sound)
    (performed : s.offered = []) {units : List SourceUnit} (others : ∀ u ∈ units, u.name ≠ n) :
    ((units.map Request.ingest).foldl serve s).Gone n (outcomes ++ s.outcomes units)
      (reports ++ s.offers (units.map .ingest)) := by
  induction units generalizing s outcomes reports with
  | nil => simpa [Session.outcomes, offers] using gone
  | cons u rest ih =>
    have first := gone.ingest sound performed (others u List.mem_cons_self)
    have all := ih first (sound.serve (.ingest u)) rfl fun v hv =>
      others v (List.mem_cons_of_mem u hv)
    simpa [Session.outcomes, offers, answer] using all

end Gone

theorem disjoint_finish (settings : Settings) (requests : List Request) :
    let left := (after settings requests).finish.2
    ∀ d ∈ left.unresolved, ∀ e ∈ left.external, d.name ≠ e.name := by
  intro left d waits e blocked same
  obtain ⟨unresolved, external⟩ := lists_finish settings requests
  have waits := (unresolved.mem_iff d.name d).mpr ⟨waits, rfl⟩
  have blocked := (external.mem_iff e.name e).mpr ⟨blocked, rfl⟩
  have idle := (blockedAlone_after settings requests e.name (by simp [blocked])).1
  rw [← same, waits] at idle
  exact Option.some_ne_none d idle

theorem unwritten_finish (settings : Settings) {units : List SourceUnit}
    (distinct : (units.map (·.name)).Nodup) :
    let s := after settings (units.map .ingest)
    ∀ d ∈ s.finish.2.unresolved ++ s.finish.2.external, s.finalized[d.name]? = none := by
  intro s d listed
  obtain ⟨unresolved, external⟩ := lists_finish settings (units.map .ingest)
  rcases List.mem_append.mp listed with waits | blocked
  · have waits := (unresolved.mem_iff d.name d).mpr ⟨waits, rfl⟩
    by_contra written
    exact not_torn_of_distinct distinct d.name ⟨by simp [waits], written⟩
  · have blocked := (external.mem_iff d.name d).mpr ⟨blocked, rfl⟩
    exact (blockedAlone_after settings _ d.name (by simp [blocked])).2

theorem offers_finish (settings : Settings) (requests : List Request) :
    let s := after settings requests
    s.offers [.finish] =
      if settings.emitPartialOnFinish then
        (s.finish.2.unresolved ++ s.finish.2.external).map fun d =>
          (s.survey d.name d.entryPoints).report
      else [] := by
  intro s
  rw [offers, offers, List.append_nil, answer, offered_finish, offered_after, settings_after,
    List.nil_append]

theorem gone_after_finish (settings : Settings) {units later : List SourceUnit} {d : Deferred}
    (distinct : (units.map (·.name)).Nodup)
    (listed : let left := (after settings (units.map .ingest)).finish.2
      d ∈ left.unresolved ++ left.external)
    (others : ∀ u ∈ later, u.name ≠ d.name) :
    let closed := after settings (units.map .ingest ++ [.finish])
    ((later.map Request.ingest).foldl serve closed).Gone d.name (closed.outcomes later)
      (closed.offers (later.map .ingest)) := by
  intro closed
  have gone : closed.Gone d.name [] [] := by
    rw [show closed = _ from after_append settings _ .finish]
    exact gone_finish (unwritten_finish settings distinct d listed)
  exact gone.ingestAll (sound_after settings _) (offered_after settings _) others

end Session

namespace Recorder

open Session

/-- Whoever writes, a new recorder answers and hands over what the analysis does. -/
theorem run_respondAll_start {σ : Type} (settings : Settings) (requests : List Request)
    (write : Writer (StateM σ)) (a : σ) :
    let run := ((start settings).respondAll write.logged requests).run (a, [])
    run.1.1.session = after settings requests ∧
      run.1.2 = (Session.start settings).replies requests ∧
      run.2.2 = (Session.start settings).offers requests := by
  rw [run_respondAll_logged, run_respondAll]
  exact ⟨rfl, rfl, rfl⟩

/-- With distinct names, the end of an analysis lists what waits and what is blocked, in the order
of the names, and hands each of it over as far as it is known if the settings ask for it. No name is
listed twice or stands as written. Whatever units of other names come after that, a listed name is
gone. -/
theorem finish_closes_for_good {σ : Type} (settings : Settings) (units : List SourceUnit)
    (distinct : (units.map (·.name)).Nodup) (write : Writer (StateM σ)) (a : σ) :
    let run (requests : List Request) :=
      ((start settings).respondAll write.logged requests).run (a, [])
    let ingests := units.map Request.ingest
    let closed := ingests ++ [.finish]
    let s := (run ingests).1.1.session
    ∃ unresolved external : List Deferred,
      (run closed).1.2 = (run ingests).1.2 ++ [.leftovers ⟨unresolved, external⟩] ∧
      Deferred.Lists unresolved s.waitList.find? ∧ Deferred.Lists external (s.blocked[·]?) ∧
      (∀ d ∈ unresolved, ∀ e ∈ external, d.name ≠ e.name) ∧
      (∀ d ∈ unresolved ++ external, s.finalized[d.name]? = none) ∧
      (run closed).2.2 = (run ingests).2.2 ++
        (if settings.emitPartialOnFinish then
          (unresolved ++ external).map fun d => (s.survey d.name d.entryPoints).report
        else []) ∧
      ∀ later : List SourceUnit, (∀ u ∈ later, ∀ d ∈ unresolved ++ external, u.name ≠ d.name) →
        let final := run (closed ++ later.map .ingest)
        ∃ outcomes reports,
          final.1.2 = (run closed).1.2 ++ outcomes.map .outcome ∧
          final.2.2 = (run closed).2.2 ++ reports ∧
          ∀ d ∈ unresolved ++ external, final.1.1.session.Gone d.name outcomes reports := by
  intro run ingests closed s
  have said (requests : List Request) :
      (run requests).1.1.session = after settings requests ∧
        (run requests).1.2 = (Session.start settings).replies requests ∧
        (run requests).2.2 = (Session.start settings).offers requests :=
    run_respondAll_start settings requests write a
  have session : s = after settings ingests := (said ingests).1
  have lists := lists_finish settings ingests
  rw [session]
  refine ⟨_, _, ?_, lists.1, lists.2, disjoint_finish settings ingests,
    unwritten_finish settings distinct, ?_, ?_⟩
  · rw [(said closed).2.1, (said ingests).2.1, replies_append]
    rfl
  · rw [(said closed).2.2, (said ingests).2.2, offers_append, ← offers_finish settings ingests]
    rfl
  · intro later others final
    refine ⟨(after settings closed).outcomes later,
      (after settings closed).offers (later.map .ingest), ?_, ?_, fun d listed => ?_⟩
    · rw [(said _).2.1, (said closed).2.1, replies_append, ← replies_ingests]
      rfl
    · rw [(said _).2.2, (said closed).2.2, offers_append]
      rfl
    · rw [(said _).1, after, List.foldl_append]
      exact gone_after_finish settings distinct listed fun u hu => others u hu d listed

end Recorder

namespace Sample

/-- A page is written from one store and then waits for a network, since the next store calls it. A
letter is blocked, since it is mailed. -/
def unsettled : List SourceUnit :=
  [implementor "Disk" "Email" (method "Store" "load"), caller "Page" (method "Store" "load"),
    { name := "Cloud"
      methods := [((Facts.bare (method "Cloud" "go")).calling (method "Net" "get")).implementing
        (method "Store" "load")] },
    caller "Letter" mailer]

/-- The network, a third store and the mailer. -/
def latecomers : List SourceUnit :=
  [{ name := "Net", methods := [Facts.bare (method "Net" "get")] },
    implementor "Tape" "Phone" (method "Store" "load"),
    { name := "Mailer", methods := [Facts.bare mailer] }]

/-- Reports that are not complete are written at the end. -/
def partially : Settings := { emitPartialOnFinish := true }

end Sample

open Sample Session in
set_option maxRecDepth 10000 in
/-- The network would release the page, and the third store would have it read again: the page is
still known as a reader of the store when the analysis ends. -/
theorem Recorder.finish_closes_for_good_latecomers :
    ((unsettled.map (·.name)).Nodup ∧
      "Page" ∈ (after partially (unsettled.map .ingest)).readers.getD (method "Store" "load") ∅) ∧
    ∃ unresolved external,
      ("Page" ∈ unresolved.map (·.name) ∧ "Letter" ∈ external.map (·.name) ∧
        ∀ u ∈ latecomers, ∀ d ∈ unresolved ++ external, u.name ≠ d.name) ∧
      ∃ outcomes reports,
        (Session.start partially).replies
            (unsettled.map .ingest ++ [.finish] ++ latecomers.map .ingest) =
          (Session.start partially).replies (unsettled.map .ingest) ++
            [.leftovers ⟨unresolved, external⟩] ++ outcomes.map .outcome ∧
        (Session.start partially).offers
            (unsettled.map .ingest ++ [.finish] ++ latecomers.map .ingest) =
          (Session.start partially).offers (unsettled.map .ingest ++ [.finish]) ++ reports ∧
        ∀ d ∈ unresolved ++ external,
          (after partially (unsettled.map .ingest ++ [.finish] ++ latecomers.map .ingest)).Gone
            d.name outcomes reports := by
  have distinct : (unsettled.map (·.name)).Nodup := by decide +kernel
  have said (requests : List Request) := run_respondAll_start partially requests keepReport []
  obtain ⟨unresolved, external, answers, waiting, blocked, _, _, _, forever⟩ :=
    finish_closes_for_good partially unsettled distinct keepReport []
  simp only [said] at answers waiting blocked forever
  rw [answers] at forever
  have ⟨page, letter, reads, new⟩ :
      (after partially (unsettled.map .ingest)).waitList.find? "Page" =
        some ⟨"Page", [method "Page" "show"], .ofList [method "Net" "get"] compare⟩ ∧
      (after partially (unsettled.map .ingest)).blocked["Letter"]? =
        some ⟨"Letter", [method "Letter" "show"], .ofList [mailer] compare⟩ ∧
      "Page" ∈ (after partially (unsettled.map .ingest)).readers.getD (method "Store" "load") ∅ ∧
      ∀ u ∈ latecomers, (after partially (unsettled.map .ingest)).waitList.find? u.name = none ∧
        (after partially (unsettled.map .ingest)).blocked[u.name]? = none := by
    decide +kernel
  have others : ∀ u ∈ latecomers, ∀ d ∈ unresolved ++ external, u.name ≠ d.name := by
    intro u late d listed same
    obtain ⟨idle, unblocked⟩ := new u late
    rcases List.mem_append.mp listed with listed | listed
    · rw [(waiting.mem_iff u.name d).mpr ⟨listed, same.symm⟩] at idle
      exact Option.some_ne_none d idle
    · rw [(blocked.mem_iff u.name d).mpr ⟨listed, same.symm⟩] at unblocked
      exact Option.some_ne_none d unblocked
  have unresolved_page := ((waiting.mem_iff _ _).mp page).1
  have external_letter := ((blocked.mem_iff _ _).mp letter).1
  exact ⟨⟨distinct, reads⟩, unresolved, external,
    ⟨List.mem_map_of_mem unresolved_page, List.mem_map_of_mem external_letter, others⟩,
    forever latecomers others⟩

end DataTrail
