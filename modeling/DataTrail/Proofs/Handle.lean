import DataTrail.Proofs.Registration
import DataTrail.Proofs.Run
import DataTrail.Proofs.WaitList

/-! What resolving a report does to an analysis: the report is blocked, deferred or handed over, by
what its entry points reach, and no other report is touched. -/

namespace DataTrail

namespace Program

/-- One of the entry points reaches `m`, and nothing says what a call of `m` runs. -/
def Lacks (p : Program) (eps : List MethodId) (m : MethodId) : Prop :=
  ∃ e ∈ eps, p.Reaches e m ∧ p.isMissing m

/-- One of the entry points reaches `m`, which is missing and belongs to another namespace than that
entry point. -/
def LacksOutside (p : Program) (depth : Nat) (eps : List MethodId) (m : MethodId) : Prop :=
  ∃ e ∈ eps, p.Reaches e m ∧ p.isMissing m ∧ m.namespaceAt depth ≠ e.namespaceAt depth

variable {p : Program} {depth : Nat} {name : String} {eps : List MethodId} {m : MethodId}

theorem LacksOutside.lacks (h : p.LacksOutside depth eps m) : p.Lacks eps m := by
  obtain ⟨e, he, hm, missing, _⟩ := h
  exact ⟨e, he, hm, missing⟩

theorem external_survey_ne_empty :
    (p.survey depth name eps).findings.external ≠ ∅ ↔ ∃ m, p.LacksOutside depth eps m := by
  constructor
  · intro h
    obtain ⟨m, hm⟩ := exists_mem_of_ne_empty h
    exact ⟨m, mem_external_survey.mp hm⟩
  · rintro ⟨m, hm⟩
    exact Std.ExtTreeSet.ne_empty_of_mem (mem_external_survey.mpr hm)

/-- Unless a missing method is outside, the pending methods are all that are missing. -/
theorem mem_pending_iff_lacks (inside : ∀ k, ¬p.LacksOutside depth eps k) :
    m ∈ (p.survey depth name eps).findings.pending ↔ p.Lacks eps m := by
  rw [mem_pending_survey]
  constructor
  · rintro ⟨e, he, hm, missing, _⟩
    exact ⟨e, he, hm, missing⟩
  · rintro ⟨e, he, hm, missing⟩
    refine ⟨e, he, hm, missing, ?_⟩
    by_contra other
    exact inside m ⟨e, he, hm, missing, other⟩

theorem isComplete_survey_iff_lacks :
    (p.survey depth name eps).findings.isComplete ↔ ∀ m, ¬p.Lacks eps m := by
  rw [isComplete_survey]
  constructor
  · rintro known m ⟨e, he, hm, missing⟩
    simp [known m ⟨e, he, hm⟩] at missing
  · rintro known m ⟨e, he, hm⟩
    exact Bool.not_eq_true _ ▸ fun missing => known m ⟨e, he, hm, missing⟩

end Program

/-- The verdict that the program `p` calls for on the entry points `eps`. -/
inductive Verdict.Fits (p : Program) (depth : Nat) (eps : List MethodId) : Verdict → Prop where
  | blocked {part : Report} {external : MethodSet} (outside : ∃ m, p.LacksOutside depth eps m)
      (exact : ∀ m, m ∈ external ↔ p.LacksOutside depth eps m) : Fits p depth eps (.blocked part external)
  | pending {part : Report} {waitingFor : MethodSet} (inside : ∀ m, ¬p.LacksOutside depth eps m)
      (lacking : ∃ m, p.Lacks eps m) (exact : ∀ m, m ∈ waitingFor ↔ p.Lacks eps m) :
      Fits p depth eps (.pending part waitingFor)
  | finalized {report : Report} (known : ∀ m, ¬p.Lacks eps m) : Fits p depth eps (.finalized report)

namespace Session

variable {s s' : Session} {name n : String} {eps : List MethodId}

/-- Notices hand nothing over. -/
theorem offered_of_notices {notices : List Notice}
    (h : s'.journal = notices.map .notice ++ s.journal) : s'.offered = s.offered := by
  simp [offered, events, Event.offers, h]

/-- The readers of interfaces once `name` is written from `interfaces`. -/
def readersWith (s : Session) (name : String) (interfaces : MethodSet) :
    Std.ExtTreeMap MethodId NameSet :=
  interfaces.toList.foldl
    (fun readers m => readers.insert m ((readers.getD m ∅).insert name)) s.readers

theorem mem_readersWith {interfaces : MethodSet} {m : MethodId} :
    n ∈ (s.readersWith name interfaces).getD m ∅ ↔
      n ∈ s.readers.getD m ∅ ∨ m ∈ interfaces ∧ name = n := by
  rw [readersWith, foldl_iff _ (n ∈ Std.ExtTreeMap.getD · m ∅) (fun k => k = m ∧ name = n)
    (fun _ _ => mem_getD_insert_insert)]
  simp

theorem handle_of_external (h : (s.survey name eps).findings.external ≠ ∅) :
    ∃ notices : List Notice, s.handle name eps =
      ({ s with
          waitList := s.waitList.remove name
          blocked := s.blocked.insert name ⟨name, eps, (s.survey name eps).findings.external⟩
          finalized := s.finalized.erase name
          journal := notices.map .notice ++ s.journal },
        .blocked (s.survey name eps).report (s.survey name eps).findings.external) := by
  have found : (s.survey name eps).findings.external.isEmpty = false :=
    Std.ExtTreeSet.isEmpty_eq_false_iff.mpr h
  simp only [handle, judge, handOver, found, noteExternal, noteAll_eq, block, note, record,
    Bool.not_false, if_true]
  exact ⟨_ :: _, rfl⟩

theorem handle_of_pending (h : (s.survey name eps).findings.external = ∅)
    (hp : (s.survey name eps).findings.pending ≠ ∅) :
    ∃ notices : List Notice, s.handle name eps =
      ({ s with
          waitList :=
            s.waitList.defer name eps (s.survey name eps).findings.pending s.program.isMissing
          blocked := s.blocked.erase name
          finalized := s.finalized.erase name
          journal := notices.map .notice ++ s.journal },
        .pending (s.survey name eps).report (s.survey name eps).findings.pending) := by
  have none : (s.survey name eps).findings.external.isEmpty = true :=
    Std.ExtTreeSet.isEmpty_iff.mpr h
  have found : (s.survey name eps).findings.pending.isEmpty = false :=
    Std.ExtTreeSet.isEmpty_eq_false_iff.mpr hp
  simp only [handle, judge, handOver, none, found, noteExternal, noteAll_eq, postpone, note, record,
    Bool.not_true, Bool.not_false, if_true]
  exact ⟨_ :: _, rfl⟩

theorem handle_of_complete (h : (s.survey name eps).findings.isComplete) :
    ∃ notices : List Notice, s.handle name eps =
      ({ s with
          blocked := s.blocked.erase name
          finalized := s.finalized.insert name eps
          readers := s.readersWith name (s.survey name eps).findings.interfaces
          journal := .offer (s.survey name eps).report :: (notices.map .notice ++ s.journal) },
        .finalized (s.survey name eps).report) := by
  obtain ⟨pending, external⟩ := Bool.and_eq_true_iff.mp h
  have again : (s.finalized.erase name).insert name eps = s.finalized.insert name eps := by
    refine Std.ExtTreeMap.ext_getElem? fun n => ?_
    rw [Std.ExtTreeMap.getElem?_insert, Std.ExtTreeMap.getElem?_insert, Std.ExtTreeMap.getElem?_erase]
    split <;> rfl
  simp only [handle, judge, handOver, pending, external, noteExternal, noteAll_eq, finalize, offer,
    record, Bool.not_true, again]
  exact ⟨_, rfl⟩

/-- The entry of the report on the list of blocked reports, after the verdict. -/
def blockedBy (name : String) (eps : List MethodId) : Verdict → Option Deferred
  | .blocked _ external => some ⟨name, eps, external⟩
  | _ => none

/-- The entry of the report on the wait-list, after the verdict. A report that is handed over leaves
an entry of its name as it is. -/
def deferredBy (s : Session) (name : String) (eps : List MethodId) : Verdict → Option Deferred
  | .finalized _ => s.waitList.find? name
  | .pending _ waitingFor => some (s.waitList.deferral name eps waitingFor s.program.isMissing)
  | .blocked _ _ => none

/-- How the three tables of reports follow a verdict on the report `name`: they change at that name
only. -/
structure Settles (before : Session) (name : String) (eps : List MethodId) (verdict : Verdict)
    (after : Session) : Prop where
  finalized : ∀ n, after.finalized[n]? =
    if name = n then if verdict.isFinalized then some eps else none else before.finalized[n]?
  blocked : ∀ n, after.blocked[n]? =
    if name = n then blockedBy name eps verdict else before.blocked[n]?
  waitList : ∀ n, after.waitList.find? n =
    if name = n then before.deferredBy name eps verdict else before.waitList.find? n

/-- A verdict is given by exactly one of three findings. -/
theorem handle_cases (s : Session) (name : String) (eps : List MethodId) :
    (s.survey name eps).findings.external ≠ ∅ ∨
      (s.survey name eps).findings.external = ∅ ∧ (s.survey name eps).findings.pending ≠ ∅ ∨
      (s.survey name eps).findings.isComplete := by
  rw [Findings.isComplete, Bool.and_eq_true, Std.ExtTreeSet.isEmpty_iff, Std.ExtTreeSet.isEmpty_iff]
  by_cases external : (s.survey name eps).findings.external = ∅
  · by_cases pending : (s.survey name eps).findings.pending = ∅
    · exact .inr (.inr ⟨pending, external⟩)
    · exact .inr (.inl ⟨external, pending⟩)
  · exact .inl external

/-- All that the resolution of the report `name` does. -/
structure Resolves (before : Session) (name : String) (eps : List MethodId) (verdict : Verdict)
    (after : Session) : Prop extends Settles before name eps verdict after where
  settings : after.settings = before.settings
  program : after.program = before.program
  fits : verdict.Fits before.program before.settings.namespaceDepth eps
  report : verdict.report = (before.survey name eps).report
  offered : after.offered = before.offered ++ if verdict.isFinalized then [verdict.report] else []
  readers : ∀ m n, n ∈ after.readers.getD m ∅ ↔ n ∈ before.readers.getD m ∅ ∨
    verdict.isFinalized ∧ m ∈ (before.survey name eps).findings.interfaces ∧ name = n
  valid : before.waitList.Valid → after.waitList.Valid

theorem handle_resolves (s : Session) (name : String) (eps : List MethodId) :
    s.Resolves name eps (s.handle name eps).2 (s.handle name eps).1 := by
  rcases handle_cases s name eps with external | ⟨external, pending⟩ | complete
  · obtain ⟨notices, h⟩ := handle_of_external external
    rw [h]
    exact {
      finalized n := by simp [Std.ExtTreeMap.getElem?_erase, Verdict.isFinalized]
      blocked n := by simp [Std.ExtTreeMap.getElem?_insert, blockedBy]
      waitList n := by simp [WaitList.find?_remove, deferredBy]
      settings := rfl
      program := rfl
      fits := .blocked (Program.external_survey_ne_empty.mp external)
        fun m => Program.mem_external_survey
      report := rfl
      offered := by simpa [Verdict.isFinalized] using offered_of_notices rfl
      readers m n := by simp [Verdict.isFinalized]
      valid h := h.remove }
  · obtain ⟨notices, h⟩ := handle_of_pending external pending
    have inside : ∀ m, ¬s.program.LacksOutside s.settings.namespaceDepth eps m := fun m hm =>
      Program.external_survey_ne_empty.mpr ⟨m, hm⟩ external
    obtain ⟨m, hm⟩ := exists_mem_of_ne_empty pending
    have waits : (s.waitList.deferral name eps (s.survey name eps).findings.pending
        s.program.isMissing).waitingFor.isEmpty = false :=
      Std.ExtTreeSet.isEmpty_eq_false_iff.mpr (Std.ExtTreeSet.ne_empty_of_mem
        (WaitList.mem_waitingFor_deferral.mpr (.inr hm)))
    rw [h]
    exact {
      finalized n := by simp [Std.ExtTreeMap.getElem?_erase, Verdict.isFinalized]
      blocked n := by simp [Std.ExtTreeMap.getElem?_erase, blockedBy]
      waitList n := by simp [WaitList.find?_defer, waits, deferredBy]
      settings := rfl
      program := rfl
      fits := .pending inside ⟨m, (Program.mem_pending_iff_lacks inside).mp hm⟩
        fun m => Program.mem_pending_iff_lacks inside
      report := rfl
      offered := by simpa [Verdict.isFinalized] using offered_of_notices rfl
      readers m n := by simp [Verdict.isFinalized]
      valid h := h.defer }
  · obtain ⟨notices, h⟩ := handle_of_complete complete
    rw [h]
    exact {
      finalized n := by simp [Std.ExtTreeMap.getElem?_insert, Verdict.isFinalized]
      blocked n := by simp [Std.ExtTreeMap.getElem?_erase, blockedBy]
      waitList n := by by_cases hn : name = n <;> simp [hn, deferredBy]
      settings := rfl
      program := rfl
      fits := .finalized (Program.isComplete_survey_iff_lacks.mp complete)
      report := rfl
      offered := by simp [offered, events, Event.offers, Verdict.isFinalized, Verdict.report]
      readers m n := by simp [mem_readersWith, Verdict.isFinalized]
      valid h := h }

end Session

namespace Verdict.Fits

variable {p : Program} {depth : Nat} {eps : List MethodId} {verdict : Verdict}

theorem blocked_iff (h : verdict.Fits p depth eps) :
    (∃ part external, verdict = .blocked part external) ↔ ∃ m, p.LacksOutside depth eps m := by
  cases h with
  | blocked outside => simp [outside]
  | pending inside => simp [inside]
  | finalized known =>
    have inside : ∀ m, ¬p.LacksOutside depth eps m := fun m hm => known m hm.lacks
    simp [inside]

theorem pending_iff (h : verdict.Fits p depth eps) :
    (∃ part waitingFor, verdict = .pending part waitingFor) ↔
      (∀ m, ¬p.LacksOutside depth eps m) ∧ ∃ m, p.Lacks eps m := by
  cases h with
  | blocked outside => simpa using fun inside => absurd outside (not_exists.mpr inside)
  | pending inside lacking => simp [inside, lacking]
  | finalized known => simp [known]

theorem finalized_iff (h : verdict.Fits p depth eps) :
    verdict.isFinalized ↔ ∀ m, ¬p.Lacks eps m := by
  cases h with
  | blocked outside =>
    obtain ⟨m, hm⟩ := outside
    simpa [isFinalized] using ⟨m, hm.lacks⟩
  | pending inside lacking => simpa [isFinalized] using lacking
  | finalized known => simp [isFinalized, known]

/-- Methods outside the namespace weigh more than those inside. -/
theorem mem_missing (h : verdict.Fits p depth eps) (m : MethodId) :
    m ∈ verdict.missing ↔ p.LacksOutside depth eps m ∨
      (∀ k, ¬p.LacksOutside depth eps k) ∧ p.Lacks eps m := by
  cases h with
  | blocked outside exact =>
    have some : ¬∀ k, ¬p.LacksOutside depth eps k := not_forall_not.mpr outside
    simp [missing, exact, some]
  | pending inside lacking exact => simp [missing, exact, inside]
  | finalized known =>
    have inside : ¬p.LacksOutside depth eps m := fun hm => known m hm.lacks
    simp [missing, known, inside]

end Verdict.Fits

end DataTrail
