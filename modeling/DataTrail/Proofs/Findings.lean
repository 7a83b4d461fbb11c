import DataTrail.Findings
import DataTrail.Proofs.Collections
import DataTrail.Proofs.Traversal

/-! Resolving an entry point is exact: the findings hold what the methods reached from the entry
point yield, and nothing else. `Finding` is one item of any of the five parts of the findings, so
that each step of a resolution has one lemma for all of them. -/

namespace DataTrail

/-- One item of findings. -/
inductive Finding where
  | category (c : String)
  | disclosure (d : Disclosure)
  | pending (m : MethodId)
  | external (m : MethodId)
  | interface (m : MethodId)

/-- The items that a record gives on its own are its data. -/
def Record.Gives (r : Record) : Finding → Prop
  | .category c => c ∈ r.categories
  | .disclosure d => d ∈ r.disclosures
  | _ => False

namespace Findings

instance : Membership Finding Findings where
  mem f
    | .category c => c ∈ f.categories
    | .disclosure d => d ∈ f.disclosures
    | .pending m => m ∈ f.pending
    | .external m => m ∈ f.external
    | .interface m => m ∈ f.interfaces

@[simp] theorem category_mem {f : Findings} {c : String} :
    Finding.category c ∈ f ↔ c ∈ f.categories := Iff.rfl

@[simp] theorem disclosure_mem {f : Findings} {d : Disclosure} :
    Finding.disclosure d ∈ f ↔ d ∈ f.disclosures := Iff.rfl

@[simp] theorem pending_mem {f : Findings} {m : MethodId} :
    Finding.pending m ∈ f ↔ m ∈ f.pending := Iff.rfl

@[simp] theorem external_mem {f : Findings} {m : MethodId} :
    Finding.external m ∈ f ↔ m ∈ f.external := Iff.rfl

@[simp] theorem interface_mem {f : Findings} {m : MethodId} :
    Finding.interface m ∈ f ↔ m ∈ f.interfaces := Iff.rfl

theorem not_mem_nothing (x : Finding) : x ∉ ({} : Findings) := by
  cases x <;> exact Std.ExtTreeSet.not_mem_empty

theorem mem_union {f g : Findings} {x : Finding} : x ∈ f.union g ↔ x ∈ f ∨ x ∈ g := by
  cases x <;> exact Std.ExtTreeSet.mem_union_iff

theorem mem_absorb {f : Findings} {r : Record} {x : Finding} :
    x ∈ f.absorb r ↔ x ∈ f ∨ r.Gives x := by
  cases x with
  | category c => exact Std.ExtTreeSet.mem_union_iff
  | disclosure d => exact Std.ExtTreeSet.mem_union_iff
  | _ => exact (or_iff_left id).symm

/-- Findings with the same items are the same. -/
theorem ext_mem {f g : Findings} (h : ∀ x : Finding, x ∈ f ↔ x ∈ g) : f = g := by
  obtain ⟨c, d, pe, ex, i⟩ := f
  obtain ⟨c', d', pe', ex', i'⟩ := g
  obtain rfl : c = c' := Std.ExtTreeSet.ext_mem fun k => h (.category k)
  obtain rfl : d = d' := Std.ExtTreeSet.ext_mem fun k => h (.disclosure k)
  obtain rfl : pe = pe' := Std.ExtTreeSet.ext_mem fun k => h (.pending k)
  obtain rfl : ex = ex' := Std.ExtTreeSet.ext_mem fun k => h (.external k)
  obtain rfl : i = i' := Std.ExtTreeSet.ext_mem fun k => h (.interface k)
  rfl

end Findings

namespace Program

variable {p : Program} {depth : Nat} {scope : String} {e m : MethodId}

theorem find?_of_mem_recordsOf {r : Record} (h : r ∈ p.recordsOf m) :
    ∃ j, p.registry.find? j = some r := by
  unfold recordsOf at h
  split at h
  · exact ⟨m, Option.mem_toList.mp h⟩
  · obtain ⟨j, _, hj⟩ := List.mem_filterMap.mp h
    exact ⟨j, hj⟩

theorem mem_calleesOf {k : MethodId} :
    k ∈ p.calleesOf m ↔ ∃ r ∈ p.recordsOf m, k ∈ r.callees := by
  simp [calleesOf]

theorem mem_called_of_mem_calleesOf {k : MethodId} (h : k ∈ p.calleesOf m) : k ∈ p.called := by
  obtain ⟨r, hr, hk⟩ := mem_calleesOf.mp h
  obtain ⟨j, hj⟩ := find?_of_mem_recordsOf hr
  have hj : (j, r) ∈ p.registry.toList := Std.ExtTreeMap.mem_toList_iff_getElem?_eq_some.mpr hj
  simp only [called, Std.ExtTreeSet.mem_ofList, List.contains_iff_mem, List.mem_flatMap]
  exact ⟨(j, r), hj, Std.ExtTreeSet.mem_toList.mpr hk⟩

/-- Control does not leave the methods of `visited`. -/
def Closed (p : Program) (visited : MethodSet) : Prop :=
  ∀ m ∈ visited, ∀ k ∈ p.calleesOf m, k ∈ visited

/-- Where control does not leave what was visited before, the visits are all other methods that it
reaches: a way to one of them meets none that was visited. -/
theorem mem_visits_of_closed {visited : MethodSet} (closed : p.Closed visited) :
    m ∈ p.visits visited e ↔ p.Reaches e m ∧ m ∉ visited := by
  have fresh : ∀ k, k ∈ (p.called.insert e) \ visited ↔ (e = k ∨ k ∈ p.called) ∧ k ∉ visited := by
    simp [Std.ExtTreeSet.mem_diff_iff]
  rw [visits, mem_explore_iff]
  constructor
  · intro h
    refine ⟨?_, ((fresh m).mp h.mem_fresh).2⟩
    induction h with
    | start hx _ => exact List.mem_singleton.mp hx ▸ .refl
    | step _ hk _ ih => exact .call ih hk
  · rintro ⟨reached, new⟩
    induction reached with
    | refl => exact .start (List.mem_singleton.mpr rfl) ((fresh e).mpr ⟨.inl rfl, new⟩)
    | call _ hk ih =>
      have before := ih fun old => new (closed _ old _ hk)
      exact .step before hk ((fresh _).mpr ⟨.inr (mem_called_of_mem_calleesOf hk), new⟩)

/-- The visits of an entry point are the methods that control reaches from it. -/
theorem mem_visits_iff : m ∈ p.visits ∅ e ↔ p.Reaches e m := by
  rw [mem_visits_of_closed fun m hm => absurd hm Std.ExtTreeSet.not_mem_empty]
  exact and_iff_left Std.ExtTreeSet.not_mem_empty

theorem nodup_visits (p : Program) (visited : MethodSet) (e : MethodId) :
    (p.visits visited e).Nodup :=
  nodup_explore _ _ _

/-- What a visit of `m` yields, for an entry point whose namespace is `scope`. -/
def Yields (p : Program) (depth : Nat) (scope : String) (m : MethodId) : Finding → Prop
  | .category c => ∃ r ∈ p.recordsOf m, c ∈ r.categories
  | .disclosure d => ∃ r ∈ p.recordsOf m, d ∈ r.disclosures
  | .pending k => m = k ∧ p.isMissing m ∧ m.namespaceAt depth = scope
  | .external k => m = k ∧ p.isMissing m ∧ m.namespaceAt depth ≠ scope
  | .interface k => m = k ∧ p.dispatch.isImplemented m

theorem mem_foldl_absorb (rs : List Record) (f : Findings) (x : Finding) :
    x ∈ rs.foldl Findings.absorb f ↔ x ∈ f ∨ ∃ r ∈ rs, r.Gives x :=
  foldl_iff Findings.absorb (x ∈ ·) (·.Gives x) (fun _ _ => Findings.mem_absorb) f rs

theorem mem_observe {f : Findings} {x : Finding} :
    x ∈ p.observe depth scope f m ↔ x ∈ f ∨ p.Yields depth scope m x := by
  have data := mem_foldl_absorb (p.recordsOf m) f x
  unfold observe
  generalize (p.recordsOf m).foldl Findings.absorb f = g at data
  by_cases implemented : p.dispatch.isImplemented m
  · have found : p.isMissing m = false := by simp [isMissing, implemented]
    rw [if_pos implemented]
    cases x <;> simp_all [Record.Gives, Yields, or_comm]
  rw [if_neg implemented]
  by_cases registered : p.registry.contains m
  · have found : p.isMissing m = false := by simp [isMissing, registered]
    rw [if_pos registered]
    cases x <;> simp_all [Record.Gives, Yields]
  have missing : p.isMissing m := by simp [isMissing, implemented, registered]
  rw [if_neg registered]
  by_cases inside : m.namespaceAt depth = scope
  · rw [show classify depth scope m = .pending from if_pos inside]
    cases x <;> simp_all [Record.Gives, Yields, or_comm]
  · rw [show classify depth scope m = .external from if_neg inside]
    cases x <;> simp_all [Record.Gives, Yields, or_comm]

theorem mem_resolve {visited : MethodSet} {f : Findings} {x : Finding} :
    x ∈ p.resolve depth scope visited f e ↔
      x ∈ f ∨ ∃ m ∈ p.visits visited e, p.Yields depth scope m x :=
  foldl_iff (p.observe depth scope) (x ∈ ·) (p.Yields depth scope · x) (fun _ _ => mem_observe) f _

/-- A resolution that starts afresh finds what the methods that it reaches yield. -/
theorem mem_resolve_afresh {x : Finding} :
    x ∈ p.resolve depth scope ∅ {} e ↔ ∃ m, p.Reaches e m ∧ p.Yields depth scope m x := by
  rw [mem_resolve, or_iff_right (Findings.not_mem_nothing x)]
  simp only [mem_visits_iff]

theorem mem_resolveEntry {x : Finding} :
    x ∈ p.resolveEntry depth e ↔
      ∃ m, p.Reaches e m ∧ p.Yields depth (e.namespaceAt depth) m x :=
  mem_resolve_afresh

end Program

end DataTrail
