import Mathlib.Data.List.Forall2
import Mathlib.Data.Set.Basic
import DataTrail.Proofs.Resolution

/-! A verdict is exact, whatever was asked before. Which methods stand in its way and what its report
shows follow from the records and the implementors that the program lists: for each entry point these
give the least set of methods that control does not leave, and of this set the methods are missing
that have neither. -/

namespace DataTrail

namespace Program

variable {p : Program} {depth : Nat} {eps : List MethodId} {e m : MethodId}

/-- The methods that control gets to from `e`: those of every set that holds `e` and that control does
not leave. -/
def region (p : Program) (e : MethodId) : Set MethodId :=
  {m | ∀ S : Set MethodId, e ∈ S → p.Keeps S → m ∈ S}

/-- The methods of the region of `e` that have neither a record nor an implementor. -/
def gaps (p : Program) (e : MethodId) : Set MethodId :=
  {m | m ∈ p.region e ∧ p.registry.find? m = none ∧ p.dispatch.implementors m = []}

theorem mem_region : m ∈ p.region e ↔ p.Reaches e m := by
  obtain ⟨⟨start, keeps⟩, least⟩ := isLeast_reaches p e
  constructor
  · intro inside
    exact inside _ start keeps
  · intro reached S start keeps
    exact least ⟨start, keeps⟩ reached

theorem isLeast_region (p : Program) (e : MethodId) :
    IsLeast {S : Set MethodId | e ∈ S ∧ p.Keeps S} (p.region e) := by
  have same : p.region e = {m | p.Reaches e m} := Set.ext fun m => mem_region
  rw [same]
  exact isLeast_reaches p e

theorem mem_gaps : m ∈ p.gaps e ↔ p.Reaches e m ∧ p.isMissing m := by
  rw [isMissing_iff_eq_nil, ← mem_region, and_comm (a := p.dispatch.implementors m = [])]
  rfl

theorem lacks_iff : p.Lacks eps m ↔ ∃ e ∈ eps, m ∈ p.gaps e := by
  simp only [Lacks, mem_gaps]

theorem lacksOutside_iff :
    p.LacksOutside depth eps m ↔
      ∃ e ∈ eps, m ∈ p.gaps e ∧ m.namespaceAt depth ≠ e.namespaceAt depth := by
  simp only [LacksOutside, mem_gaps, and_assoc]

end Program

/-- The purpose of the entry point `e`: it has the data and the disclosures of the records that run in
the region of `e`, in order. -/
structure Purpose.Covers (p : Program) (e : MethodId) (purpose : Purpose) : Prop where
  name : purpose.name = e.display
  data_increasing : Increasing purpose.data
  mem_data : ∀ c, c ∈ purpose.data ↔ ∃ m ∈ p.region e, ∃ r, p.Runs m r ∧ c ∈ r.categories
  disclosures_increasing : Increasing purpose.disclosures
  mem_disclosures : ∀ d, d ∈ purpose.disclosures ↔
    ∃ m ∈ p.region e, ∃ r, p.Runs m r ∧ d ∈ r.disclosures

/-- The report of the entry points `eps`: one purpose for each of them, in their order, and the data
and disclosures of all purposes together, in order. -/
structure Report.Covers (p : Program) (name : String) (eps : List MethodId) (report : Report) :
    Prop where
  name : report.name = name
  purposes : List.Forall₂ (Purpose.Covers p) eps report.purposes
  data_increasing : Increasing report.data
  mem_data : ∀ c, c ∈ report.data ↔ ∃ purpose ∈ report.purposes, c ∈ purpose.data
  disclosures_increasing : Increasing report.disclosures
  mem_disclosures : ∀ d, d ∈ report.disclosures ↔
    ∃ purpose ∈ report.purposes, d ∈ purpose.disclosures

theorem Purpose.covers_resolveEntry (p : Program) (depth : Nat) (e : MethodId) :
    Purpose.Covers p e (.ofData e.display (p.resolveEntry depth e).categories
      (p.resolveEntry depth e).disclosures) := by
  have exact : (p.resolveEntry depth e).Exact p depth (e.namespaceAt depth) (p.region e) := by
    refine Program.exact_of_mem fun x => ?_
    simp only [Program.mem_region]
    exact Program.mem_resolveEntry
  refine ⟨rfl, increasing_toList _, fun c => ?_, increasing_toList _, fun d => ?_⟩
  · rw [Purpose.ofData, Std.ExtTreeSet.mem_toList]
    exact exact.categories c
  · rw [Purpose.ofData, Std.ExtTreeSet.mem_toList]
    exact exact.disclosures d

theorem Report.covers_survey (p : Program) (depth : Nat) (name : String) (eps : List MethodId) :
    Report.Covers p name eps (p.survey depth name eps).report where
  name := rfl
  purposes := by
    simp only [Program.survey, Report.ofPurposes, List.map_map, List.forall₂_map_right_iff]
    exact List.forall₂_same.mpr fun e _ => Purpose.covers_resolveEntry p depth e
  data_increasing := by
    simp only [Program.survey, Report.ofPurposes]
    exact increasing_toList _
  mem_data c := by
    simp [Program.survey, Report.ofPurposes]
  disclosures_increasing := by
    simp only [Program.survey, Report.ofPurposes]
    exact increasing_toList _
  mem_disclosures d := by
    simp [Program.survey, Report.ofPurposes]

/-- The entry that a deferral of `name` for `waitingFor` leaves on the wait-list: it keeps the entry
points that stood there, and of the methods those that are still missing. -/
structure Session.Defers (before : Session) (name : String) (eps : List MethodId)
    (waitingFor : MethodSet) (d : Deferred) : Prop where
  entryPoints : ∀ e, e ∈ d.entryPoints ↔ e ∈ eps ∨
    ∃ old, before.waitList.find? name = some old ∧ e ∈ old.entryPoints
  waitingFor : ∀ m, m ∈ d.waitingFor ↔ m ∈ waitingFor ∨
    ∃ old, before.waitList.find? name = some old ∧ m ∈ old.waitingFor ∧
      before.program.registry.find? m = none ∧ before.program.dispatch.implementors m = []

theorem Session.Resolves.defers {before after : Session} {name : String} {eps : List MethodId}
    {part : Report} {waitingFor : MethodSet}
    (resolved : before.Resolves name eps (.pending part waitingFor) after) :
    ∃ d, after.waitList.find? name = some d ∧ before.Defers name eps waitingFor d := by
  refine ⟨_, (resolved.waitList name).trans (if_pos rfl), fun e => ?_, fun m => ?_⟩
  · rw [WaitList.mem_entryPoints_deferral, or_comm]
  · rw [WaitList.mem_waitingFor_deferral, or_comm]
    simp only [Program.isMissing_iff_eq_nil, and_comm (a := before.program.dispatch.implementors m = [])]

/-- A resolution is exact, whatever was asked before. It is blocked by the missing methods of other
namespaces, else it waits for all that are missing, else the report is complete. The report shows just
what is known, it is kept just when it is complete, and the tables change at its name only. -/
theorem Recorder.handle_exact (settings : Settings) (requests : List Request) (name : String)
    (eps : List MethodId) :
    let before := (recorded settings requests).1
    let kept := (recorded settings requests).2
    let answer := (before.handle keepReport name eps).run kept
    let after := answer.1.1
    let verdict := answer.1.2.1
    let p := before.session.program
    let depth := before.session.settings.namespaceDepth
    let missing := {m | ∃ e ∈ eps, m ∈ p.gaps e}
    let outside := {m | ∃ e ∈ eps, m ∈ p.gaps e ∧ m.namespaceAt depth ≠ e.namespaceAt depth}
    (∀ e, IsLeast {S : Set MethodId | e ∈ S ∧ p.Keeps S} (p.region e)) ∧
      ((∃ part external, verdict = .blocked part external) ↔ outside.Nonempty) ∧
      ((∃ part waitingFor, verdict = .pending part waitingFor) ↔
        outside = ∅ ∧ missing.Nonempty) ∧
      (verdict.isFinalized ↔ missing = ∅) ∧
      (∀ m, m ∈ verdict.missing ↔ m ∈ outside ∨ outside = ∅ ∧ m ∈ missing) ∧
      Report.Covers p name eps verdict.report ∧
      answer.2 = (if verdict.isFinalized then kept ++ [verdict.report] else kept) ∧
      after.session.program = p ∧
      before.session.Settles name eps verdict after.session ∧
      ∀ part waitingFor, verdict = .pending part waitingFor →
        ∃ d, after.session.waitList.find? name = some d ∧
          before.session.Defers name eps waitingFor d := by
  intro before kept answer after verdict p depth missing outside
  have fresh : before.session.journal = [] := fresh_recorded settings requests
  obtain ⟨after', notices, run, session⟩ := run_handle fresh name eps kept
  have spec := before.session.handle_resolves name eps
  have quiet : before.session.offered = [] := by
    rw [Session.offered, Session.events, fresh]
    rfl
  simp only [verdict, after, answer, missing, outside, run, session, Set.nonempty_def,
    Set.eq_empty_iff_forall_notMem, Set.mem_ofPred_eq, ← Program.lacks_iff,
    ← Program.lacksOutside_iff]
  refine ⟨Program.isLeast_region p, spec.fits.blocked_iff, spec.fits.pending_iff,
    spec.fits.finalized_iff, spec.fits.mem_missing, ?_, ?_, spec.program, ?_, ?_⟩
  · rw [spec.report]
    exact Report.covers_survey _ _ name eps
  · rw [spec.offered, quiet, List.nil_append]
    split <;> simp
  · exact ⟨spec.finalized, spec.blocked, spec.waitList⟩
  · intro part waitingFor pending
    rw [pending] at spec
    exact spec.defers

namespace Sample

/-- A letter passes a gate, which a door implements, and comes from a store that is missing. A form
sends the letter and writes to a log. -/
def office : SourceUnit where
  name := "Office"
  methods := [
    (((Facts.bare (method "Mail" "send")).handling "Email").calling gate).calling
      (method "Store" "load"),
    (((Facts.bare (method "Form" "post")).handling "Phone").calling (method "Mail" "send")).calling
      logger,
    ((Facts.bare door).handling "Name").implementing gate]

end Sample

open Sample in
set_option maxRecDepth 10000 in
/-- The letter waits for the store, the form is blocked by the log, and what the gate does is known. -/
theorem Recorder.handle_exact_office :
    let before := (recorded {} [.ingest office]).1
    let kept := (recorded {} [.ingest office]).2
    let p := before.session.program
    let mail := method "Mail" "send"
    let form := method "Form" "post"
    let sent := (before.handle keepReport "Mail" [mail]).run kept
    let posted := (before.handle keepReport "Form" [form]).run kept
    let opened := (before.handle keepReport "Gate" [gate]).run kept
    ((∃ part waitingFor, sent.1.2.1 = .pending part waitingFor) ∧
        sent.1.2.1.missing.toList = [method "Store" "load"] ∧
        sent.1.2.1.report.data = ["Email", "Name"] ∧ sent.2 = [] ∧
        method "Store" "load" ∈ p.gaps mail ∧
        ∃ m ∈ p.region mail, ∃ r, p.Runs m r ∧ "Name" ∈ r.categories) ∧
      ((∃ part external, posted.1.2.1 = .blocked part external) ∧
        posted.1.2.1.missing.toList = [logger] ∧
        posted.1.2.1.report.data = ["Email", "Name", "Phone"] ∧ posted.2 = [] ∧
        logger ∈ p.gaps form) ∧
      opened.1.2.1.isFinalized ∧ opened.1.2.1.report.data = ["Name"] ∧
      opened.2 = [opened.1.2.1.report] ∧ p.gaps gate = ∅ := by
  intro before kept p mail form sent posted opened
  have exact (name : String) (e : MethodId) := handle_exact {} [.ingest office] name [e]
  have found : (sent.1.2.1.missing.toList = [method "Store" "load"] ∧
        sent.1.2.1.report.data = ["Email", "Name"] ∧ sent.2 = []) ∧
      (posted.1.2.1.missing.toList = [logger] ∧
        posted.1.2.1.report.data = ["Email", "Name", "Phone"] ∧ posted.2 = []) ∧
      opened.1.2.1.isFinalized ∧ opened.1.2.1.report.data = ["Name"] ∧ kept = [] := by
    simp only [← List.length_eq_zero_iff (l := sent.2), ← List.length_eq_zero_iff (l := posted.2),
      ← List.length_eq_zero_iff (l := kept)]
    decide +kernel
  have scopes : (method "Store" "load").namespaceAt before.session.settings.namespaceDepth =
        mail.namespaceAt before.session.settings.namespaceDepth ∧
      logger.namespaceAt before.session.settings.namespaceDepth ≠
        form.namespaceAt before.session.settings.namespaceDepth := by decide +kernel
  -- The rest follows from these facts and the theorem, whatever was recorded.
  simp only [sent, posted, opened, p, before, kept] at exact found scopes ⊢
  generalize recorded {} [.ingest office] = run at exact found scopes ⊢
  obtain ⟨⟨waits, shown, silent⟩, ⟨lacks, shown', silent'⟩, complete, shown'', unwritten⟩ := found
  obtain ⟨near, far⟩ := scopes
  have gap_of (name : String) (e m : MethodId)
      (lacks : ((run.1.handle keepReport name [e]).run run.2).1.2.1.missing.toList = [m]) :
      m ∈ run.1.session.program.gaps e := by
    obtain ⟨_, _, _, _, missing, _⟩ := exact name e
    have lacking := Std.ExtTreeSet.mem_toList.mp (lacks ▸ List.mem_singleton_self m)
    rcases (missing m).mp lacking with ⟨e', he, gap, _⟩ | ⟨_, e', he, gap⟩
    · exact List.mem_singleton.mp he ▸ gap
    · exact List.mem_singleton.mp he ▸ gap
  have gap := gap_of "Mail" mail _ waits
  have gap' := gap_of "Form" form _ lacks
  obtain ⟨_, _, pending, _, missing, covers, _⟩ := exact "Mail" mail
  obtain ⟨_, blocked, _⟩ := exact "Form" form
  obtain ⟨_, _, _, finalized, _, _, handed, _⟩ := exact "Gate" gate
  refine ⟨⟨pending.mpr ⟨?_, _, mail, List.mem_singleton_self _, gap⟩, waits, shown, silent, gap, ?_⟩,
    ⟨blocked.mpr ⟨logger, form, List.mem_singleton_self _, gap', far⟩, lacks, shown', silent', gap'⟩,
    complete, shown'', ?_, ?_⟩
  · -- All that is missing is the store, which is in the namespace.
    refine Set.eq_empty_iff_forall_notMem.mpr fun m outside => ?_
    have only := Std.ExtTreeSet.mem_toList.mpr ((missing m).mpr (.inl outside))
    obtain rfl := List.mem_singleton.mp (waits ▸ only)
    obtain ⟨e, he, _, other⟩ := outside
    obtain rfl := List.mem_singleton.mp he
    exact other near
  · have named : "Name" ∈ ["Email", "Name"] := by decide
    obtain ⟨purpose, listed, named⟩ := (covers.mem_data "Name").mp (shown ▸ named)
    obtain ⟨only, rest, covered, none, purposes⟩ := List.forall₂_cons_left_iff.mp covers.purposes
    rw [purposes, List.forall₂_nil_left_iff.mp none, List.mem_singleton] at listed
    exact (covered.mem_data "Name").mp (listed ▸ named)
  · rw [handed, if_pos complete, unwritten, List.nil_append]
  · refine Set.eq_empty_iff_forall_notMem.mpr fun m gap => ?_
    exact Set.eq_empty_iff_forall_notMem.mp (finalized.mp complete) m
      ⟨gate, List.mem_singleton_self _, gap⟩

end DataTrail
