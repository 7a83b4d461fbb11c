import DataTrail.Session.Handle
import DataTrail.Proofs.Findings

/-! The survey of a report is determined by the methods that its entry points reach and by what the
program knows of these: programs that agree there give the same survey. -/

namespace DataTrail

namespace Program

variable {p q : Program} {depth : Nat} {name : String} {eps : List MethodId} {e m : MethodId}

/-- Control reaches `m` from one of the entry points. -/
def ReachedFrom (p : Program) (eps : List MethodId) (m : MethodId) : Prop :=
  ∃ e ∈ eps, p.Reaches e m

theorem mem_findings_survey {x : Finding} :
    x ∈ (p.survey depth name eps).findings ↔ ∃ e ∈ eps, x ∈ p.resolveEntry depth e := by
  simp only [survey, List.foldl_map]
  rw [foldl_iff (fun all e => Findings.union all (p.resolveEntry depth e)) (x ∈ ·)
    (x ∈ p.resolveEntry depth ·) (fun _ _ => Findings.mem_union)]
  exact or_iff_right (Findings.not_mem_nothing x)

theorem mem_pending_survey :
    m ∈ (p.survey depth name eps).findings.pending ↔
      ∃ e ∈ eps, p.Reaches e m ∧ p.isMissing m ∧ m.namespaceAt depth = e.namespaceAt depth := by
  rw [← Findings.pending_mem, mem_findings_survey]
  simp [mem_resolveEntry, Yields, -Findings.pending_mem]

theorem mem_external_survey :
    m ∈ (p.survey depth name eps).findings.external ↔
      ∃ e ∈ eps, p.Reaches e m ∧ p.isMissing m ∧ m.namespaceAt depth ≠ e.namespaceAt depth := by
  rw [← Findings.external_mem, mem_findings_survey]
  simp [mem_resolveEntry, Yields, -Findings.external_mem]

theorem mem_interfaces_survey :
    m ∈ (p.survey depth name eps).findings.interfaces ↔
      p.ReachedFrom eps m ∧ p.dispatch.isImplemented m := by
  rw [← Findings.interface_mem, mem_findings_survey]
  simp only [mem_resolveEntry, Yields, ReachedFrom]
  constructor
  · rintro ⟨e, he, k, hk, rfl, hi⟩
    exact ⟨⟨e, he, hk⟩, hi⟩
  · rintro ⟨⟨e, he, hk⟩, hi⟩
    exact ⟨e, he, m, hk, rfl, hi⟩

/-- A survey is complete if no method that is reached is missing. -/
theorem isComplete_survey :
    (p.survey depth name eps).findings.isComplete ↔
      ∀ m, p.ReachedFrom eps m → p.isMissing m = false := by
  rw [Findings.isComplete, Bool.and_eq_true, Std.ExtTreeSet.isEmpty_iff, Std.ExtTreeSet.isEmpty_iff,
    Std.ExtTreeSet.eq_empty_iff_forall_not_mem, Std.ExtTreeSet.eq_empty_iff_forall_not_mem]
  constructor
  · rintro ⟨pending, external⟩ m ⟨e, he, hm⟩
    by_contra missing
    rw [Bool.not_eq_false] at missing
    by_cases inside : m.namespaceAt depth = e.namespaceAt depth
    · exact pending m (mem_pending_survey.mpr ⟨e, he, hm, missing, inside⟩)
    · exact external m (mem_external_survey.mpr ⟨e, he, hm, missing, inside⟩)
  · intro known
    refine ⟨fun m h => ?_, fun m h => ?_⟩
    · obtain ⟨e, he, hm, missing, _⟩ := mem_pending_survey.mp h
      exact absurd missing (by simp [known m ⟨e, he, hm⟩])
    · obtain ⟨e, he, hm, missing, _⟩ := mem_external_survey.mp h
      exact absurd missing (by simp [known m ⟨e, he, hm⟩])

/-- A call of `m` means the same in both programs. -/
structure AgreeAt (p q : Program) (m : MethodId) : Prop where
  implemented : p.dispatch.isImplemented m = q.dispatch.isImplemented m
  missing : p.isMissing m = q.isMissing m
  records : ∀ r, r ∈ p.recordsOf m ↔ r ∈ q.recordsOf m

theorem AgreeAt.calleesOf (h : p.AgreeAt q m) (k : MethodId) :
    k ∈ p.calleesOf m ↔ k ∈ q.calleesOf m := by
  simp only [mem_calleesOf, h.records]

theorem AgreeAt.yields (h : p.AgreeAt q m) (depth : Nat) (scope : String) (x : Finding) :
    p.Yields depth scope m x ↔ q.Yields depth scope m x := by
  cases x <;> simp only [Yields, h.records, h.missing, h.implemented]

theorem Reaches.of_agree (agree : ∀ m, p.Reaches e m → p.AgreeAt q m) (h : p.Reaches e m) :
    q.Reaches e m := by
  induction h with
  | refl => exact .refl
  | call hn hk ih => exact .call ih (((agree _ hn).calleesOf _).mp hk)

/-- Programs that agree wherever an entry point leads in one of them lead to the same methods. -/
theorem reaches_congr (agree : ∀ m, p.Reaches e m → p.AgreeAt q m) :
    p.Reaches e m ↔ q.Reaches e m := by
  refine ⟨fun h => h.of_agree agree, fun h => ?_⟩
  induction h with
  | refl => exact .refl
  | call _ hk ih => exact .call ih (((agree _ ih).calleesOf _).mpr hk)

theorem resolveEntry_congr (depth : Nat) (agree : ∀ m, p.Reaches e m → p.AgreeAt q m) :
    p.resolveEntry depth e = q.resolveEntry depth e := by
  refine Findings.ext_mem fun x => ?_
  rw [mem_resolveEntry, mem_resolveEntry]
  constructor
  · rintro ⟨m, hm, hx⟩
    exact ⟨m, hm.of_agree agree, ((agree m hm).yields _ _ x).mp hx⟩
  · rintro ⟨m, hm, hx⟩
    have hm := (reaches_congr agree).mpr hm
    exact ⟨m, hm, ((agree m hm).yields _ _ x).mpr hx⟩

theorem survey_congr (depth : Nat) (name : String)
    (agree : ∀ m, p.ReachedFrom eps m → p.AgreeAt q m) :
    p.survey depth name eps = q.survey depth name eps := by
  have found : eps.map (fun e => (e, p.resolveEntry depth e)) =
      eps.map fun e => (e, q.resolveEntry depth e) := by
    refine List.map_congr_left fun e he => ?_
    rw [resolveEntry_congr depth fun m hm => agree m ⟨e, he, hm⟩]
  simp only [survey, found]

end Program

/-- Each item is less than all that follow it. -/
def Increasing {α : Type} [Ord α] (items : List α) : Prop :=
  items.Pairwise (compare · · = .lt)

theorem increasing_toList {α : Type} [Ord α] [Std.TransOrd α] (items : Std.ExtTreeSet α) :
    Increasing items.toList :=
  Std.ExtTreeSet.ordered_toList

theorem Increasing.nodup {α : Type} [Ord α] [Std.ReflOrd α] {items : List α}
    (h : Increasing items) : items.Nodup := by
  refine h.imp ?_
  rintro a b less rfl
  simp [Std.ReflOrd.compare_self] at less

/-- Two lists in the order of a key are equal if they have the same items. -/
theorem Increasing.eq_of_mem_iff {α β : Type} [Ord β] [Std.OrientedOrd β] {key : α → β}
    {xs ys : List α} (hx : Increasing (xs.map key)) (hy : Increasing (ys.map key))
    (same : ∀ x, x ∈ xs ↔ x ∈ ys) : xs = ys := by
  have distinct {l : List α} (h : Increasing (l.map key)) : l.Nodup :=
    List.Pairwise.of_map key (fun _ _ => mt (congrArg key)) h.nodup
  have perm : xs.Perm ys := (List.perm_ext_iff_of_nodup (distinct hx) (distinct hy)).mpr same
  rw [Increasing, List.pairwise_map] at hx hy
  refine List.Perm.eq_of_pairwise (fun a b _ _ less greater => ?_) hx hy perm
  simp [Std.OrientedOrd.eq_swap (a := key b), less] at greater

end DataTrail
