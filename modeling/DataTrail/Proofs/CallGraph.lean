import Mathlib.Logic.Relation
import DataTrail.CallGraph
import DataTrail.Proofs.Growth

/-! The call graph and the resolution of entry points follow control in two ways. A resolution goes
from an interface method straight to the callees of its implementors; the graph has an edge to each
implementor first. All that a resolution reaches is reached in the graph. What the graph reaches
beside it are the implementors that were passed over, as long as these are registered and no
registered method has implementors itself. -/

namespace DataTrail

theorem Dispatch.mem_implementors {d : Dispatch} {i j : MethodId} :
    j ∈ d.implementors i ↔ ∃ js, d.table[i]? = some js ∧ j ∈ js := by
  rw [implementors, Std.ExtTreeMap.getD_eq_getD_getElem?]
  cases d.table[i]? <;> simp

namespace CallGraph

variable {p : Program} {e i j k m n : MethodId} {r : Record} {x : Finding}

/-- An edge of either kind goes from `m` to `n`. -/
def Leads (g : CallGraph) (m n : MethodId) : Prop := ∃ kind, ⟨m, n, kind⟩ ∈ g.edges

/-- `n` is `m` itself or is reached from it along edges of either kind. -/
def Reaches (g : CallGraph) : MethodId → MethodId → Prop := Relation.ReflTransGen g.Leads

theorem mem_callEdges {edge : Edge} :
    edge ∈ callEdges p ↔ edge.kind = .call ∧
      ∃ r, p.registry.find? edge.source = some r ∧ edge.target ∈ r.callees := by
  obtain ⟨m, n, kind⟩ := edge
  simp only [callEdges, Registry.toList, List.mem_flatMap, List.mem_map, Edge.mk.injEq, Prod.exists,
    Std.ExtTreeMap.mem_toList_iff_getElem?_eq_some, Std.ExtTreeSet.mem_toList]
  constructor
  · rintro ⟨_, r, known, _, called, rfl, rfl, rfl⟩
    exact ⟨rfl, r, known, called⟩
  · rintro ⟨rfl, r, known, called⟩
    exact ⟨m, r, known, n, called, rfl, rfl, rfl⟩

theorem mem_implementationEdges {edge : Edge} :
    edge ∈ implementationEdges p ↔ edge.kind = .implementation ∧
      edge.target ∈ p.dispatch.implementors edge.source := by
  obtain ⟨m, n, kind⟩ := edge
  simp only [implementationEdges, Dispatch.toList, List.mem_flatMap, List.mem_map, Edge.mk.injEq,
    Prod.exists, Std.ExtTreeMap.mem_toList_iff_getElem?_eq_some, Dispatch.mem_implementors]
  constructor
  · rintro ⟨_, js, listed, _, hn, rfl, rfl, rfl⟩
    exact ⟨rfl, js, listed, hn⟩
  · rintro ⟨rfl, js, listed, hn⟩
    exact ⟨m, js, listed, n, hn, rfl, rfl, rfl⟩

theorem leads_ofProgram :
    (ofProgram p).Leads m n ↔
      (∃ r, p.registry.find? m = some r ∧ n ∈ r.callees) ∨ n ∈ p.dispatch.implementors m := by
  simp only [Leads, ofProgram, List.mem_append, mem_callEdges, mem_implementationEdges]
  constructor
  · rintro ⟨kind, ⟨_, called⟩ | ⟨_, listed⟩⟩
    · exact .inl called
    · exact .inr listed
  · rintro (called | listed)
    · exact ⟨.call, .inl ⟨rfl, called⟩⟩
    · exact ⟨.implementation, .inr ⟨rfl, listed⟩⟩

theorem find?_of_mem_recordsOf (h : r ∈ p.recordsOf m) :
    ∃ j, (ofProgram p).Reaches m j ∧ p.registry.find? j = some r := by
  unfold Program.recordsOf at h
  split at h
  · exact ⟨m, .refl, Option.mem_toList.mp h⟩
  · obtain ⟨j, listed, known⟩ := List.mem_filterMap.mp h
    exact ⟨j, .single (leads_ofProgram.mpr (.inr listed)), known⟩

/-- One call of the program is one edge or two. -/
theorem reaches_of_mem_calleesOf (h : k ∈ p.calleesOf m) : (ofProgram p).Reaches m k := by
  obtain ⟨r, run, called⟩ := Program.mem_calleesOf.mp h
  obtain ⟨j, reached, known⟩ := find?_of_mem_recordsOf run
  exact reached.tail (leads_ofProgram.mpr (.inl ⟨r, known, called⟩))

theorem reaches_of_reaches (h : p.Reaches e m) : (ofProgram p).Reaches e m := by
  induction h with
  | refl => exact .refl
  | call _ called ih => exact ih.trans (reaches_of_mem_calleesOf called)

end CallGraph

namespace Program

variable {p : Program} {depth : Nat} {e i j m : MethodId} {r : Record} {x : Finding}

theorem mem_interfaces_resolveEntry :
    m ∈ (p.resolveEntry depth e).interfaces ↔ p.Reaches e m ∧ p.dispatch.isImplemented m := by
  rw [← Findings.interface_mem, mem_resolveEntry]
  constructor
  · rintro ⟨_, reached, rfl, implemented⟩
    exact ⟨reached, implemented⟩
  · rintro ⟨reached, implemented⟩
    exact ⟨m, reached, rfl, implemented⟩

theorem mem_pending_or_mem_external_resolveEntry :
    m ∈ (p.resolveEntry depth e).pending ∨ m ∈ (p.resolveEntry depth e).external ↔
      p.Reaches e m ∧ p.isMissing m := by
  rw [← Findings.pending_mem, ← Findings.external_mem, mem_resolveEntry, mem_resolveEntry]
  constructor
  · rintro (⟨_, reached, rfl, missing, _⟩ | ⟨_, reached, rfl, missing, _⟩)
    · exact ⟨reached, missing⟩
    · exact ⟨reached, missing⟩
  · rintro ⟨reached, missing⟩
    by_cases inside : m.namespaceAt depth = e.namespaceAt depth
    · exact .inl ⟨m, reached, rfl, missing, inside⟩
    · exact .inr ⟨m, reached, rfl, missing, inside⟩

theorem mem_resolveEntry_of_isData (data : x.IsData) :
    x ∈ p.resolveEntry depth e ↔ ∃ m, p.Reaches e m ∧ ∃ r ∈ p.recordsOf m, r.Gives x := by
  simp only [mem_resolveEntry, yields_iff_of_isData data]

theorem mem_recordsOf_of_implementor (listed : j ∈ p.dispatch.implementors i)
    (known : p.registry.find? j = some r) : r ∈ p.recordsOf i := by
  unfold recordsOf
  split
  case h_1 none => simp [none] at listed
  case h_2 => exact List.mem_filterMap.mpr ⟨j, listed, known⟩

/-- Implementors are registered, and what is registered has none: the dispatch table leads in one
step from what has no record to what has one. -/
structure Shallow (p : Program) : Prop where
  known : ∀ i, ∀ j ∈ p.dispatch.implementors i, p.registry.contains j
  apart : ∀ m, p.registry.contains m → p.dispatch.isImplemented m = false

namespace Shallow

theorem unregistered (h : p.Shallow) (listed : j ∈ p.dispatch.implementors i) :
    p.registry.contains i = false := by
  rw [← Bool.not_eq_true]
  intro registered
  have implemented : p.dispatch.isImplemented i := Dispatch.isImplemented_iff.mpr ⟨j, listed⟩
  simp [h.apart i registered] at implemented

theorem mem_recordsOf (h : p.Shallow) (known : p.registry.find? m = some r) : r ∈ p.recordsOf m := by
  refine (mem_recordsOf_own (h.apart m ?_)).mpr known
  rw [Registry.contains_eq_isSome_find?, known, Option.isSome_some]

/-- What is reached in the graph is reached by control, or was passed over by it. -/
theorem reaches_or_implements (h : p.Shallow) (reached : (CallGraph.ofProgram p).Reaches e m) :
    p.Reaches e m ∨ ∃ i, p.Reaches e i ∧ m ∈ p.dispatch.implementors i := by
  induction reached with
  | refl => exact .inl .refl
  | tail _ edge ih =>
    rcases CallGraph.leads_ofProgram.mp edge with ⟨r, known, called⟩ | listed
    · left
      rcases ih with before | ⟨i, before, implements⟩
      · exact before.call (mem_calleesOf.mpr ⟨r, h.mem_recordsOf known, called⟩)
      · -- The interface method calls what its implementor calls.
        have run := mem_recordsOf_of_implementor implements known
        exact before.call (mem_calleesOf.mpr ⟨r, run, called⟩)
    · rcases ih with before | ⟨i, _, implements⟩
      · exact .inr ⟨_, before, listed⟩
      · have registered := h.known i _ implements
        simp [h.unregistered listed] at registered

theorem reaches_iff (h : p.Shallow) (unregistered : p.registry.contains m = false) :
    (CallGraph.ofProgram p).Reaches e m ↔ p.Reaches e m := by
  refine ⟨fun reached => (h.reaches_or_implements reached).resolve_right ?_,
    CallGraph.reaches_of_reaches⟩
  rintro ⟨i, _, implements⟩
  simp [h.known i m implements] at unregistered

end Shallow

theorem exists_record_of_mem_resolveEntry (data : x.IsData) (found : x ∈ p.resolveEntry depth e) :
    ∃ m r, (CallGraph.ofProgram p).Reaches e m ∧ p.registry.find? m = some r ∧ r.Gives x := by
  obtain ⟨m, reached, r, run, gives⟩ := (mem_resolveEntry_of_isData data).mp found
  obtain ⟨j, below, known⟩ := CallGraph.find?_of_mem_recordsOf run
  exact ⟨j, r, (CallGraph.reaches_of_reaches reached).trans below, known, gives⟩

theorem Shallow.mem_resolveEntry_iff (h : p.Shallow) (data : x.IsData) :
    x ∈ p.resolveEntry depth e ↔
      ∃ m r, (CallGraph.ofProgram p).Reaches e m ∧ p.registry.find? m = some r ∧ r.Gives x := by
  refine ⟨exists_record_of_mem_resolveEntry data, ?_⟩
  rintro ⟨m, r, reached, known, gives⟩
  rw [mem_resolveEntry_of_isData data]
  rcases h.reaches_or_implements reached with reached | ⟨i, reached, implements⟩
  · exact ⟨m, reached, r, h.mem_recordsOf known, gives⟩
  · exact ⟨i, reached, r, mem_recordsOf_of_implementor implements known, gives⟩

/-- The programs of an analysis are shallow as long as no registered method implements a registered
one. -/
theorem Mirrored.shallow (h : p.Mirrored) (layered : p.Layered) : p.Shallow where
  known i j listed := by
    obtain ⟨r, known, _⟩ := (h i j).mp listed
    rw [Registry.contains_eq_isSome_find?, known, Option.isSome_some]
  apart m registered := by
    rw [← Bool.not_eq_true]
    intro implemented
    obtain ⟨j, r, known, hm⟩ := h.isImplemented_iff.mp implemented
    simp [Registry.contains_eq_isSome_find?, layered j r known m hm] at registered

/-- Whatever a resolution names is reached in the call graph, and its data belong to registered
methods that are reached there. In a shallow program the two agree: the interfaces are the
implemented methods of the graph's reach, the open ends are its missing methods, and the data are
those of all its registered methods. -/
theorem resolution_agrees_with_graph (p : Program) (depth : Nat) (e : MethodId) :
    let g := CallGraph.ofProgram p
    let f := p.resolveEntry depth e
    (∀ m, m ∈ f.interfaces ∨ m ∈ f.pending ∨ m ∈ f.external → g.Reaches e m) ∧
      (∀ c ∈ f.categories,
        ∃ m r, g.Reaches e m ∧ p.registry.find? m = some r ∧ c ∈ r.categories) ∧
      (∀ d ∈ f.disclosures,
        ∃ m r, g.Reaches e m ∧ p.registry.find? m = some r ∧ d ∈ r.disclosures) ∧
      (p.Shallow →
        (∀ m, m ∈ f.interfaces ↔ g.Reaches e m ∧ p.dispatch.isImplemented m) ∧
        (∀ m, m ∈ f.pending ∨ m ∈ f.external ↔ g.Reaches e m ∧
          p.registry.contains m = false ∧ p.dispatch.isImplemented m = false) ∧
        (∀ c, c ∈ f.categories ↔
          ∃ m r, g.Reaches e m ∧ p.registry.find? m = some r ∧ c ∈ r.categories) ∧
        ∀ d, d ∈ f.disclosures ↔
          ∃ m r, g.Reaches e m ∧ p.registry.find? m = some r ∧ d ∈ r.disclosures) := by
  intro g f
  refine ⟨fun m named => ?_, fun c found => ?_, fun d found => ?_, fun shallow => ?_⟩
  · have reached : p.Reaches e m := by
      rcases named with interface | openEnd
      · exact (mem_interfaces_resolveEntry.mp interface).1
      · exact (mem_pending_or_mem_external_resolveEntry.mp openEnd).1
    exact CallGraph.reaches_of_reaches reached
  · exact exists_record_of_mem_resolveEntry (x := .category c) trivial found
  · exact exists_record_of_mem_resolveEntry (x := .disclosure d) trivial found
  refine ⟨fun m => ?_, fun m => ?_, fun c => ?_, fun d => ?_⟩
  · rw [mem_interfaces_resolveEntry]
    refine and_congr_left fun implemented => ?_
    obtain ⟨j, listed⟩ := Dispatch.isImplemented_iff.mp implemented
    exact (shallow.reaches_iff (shallow.unregistered listed)).symm
  · rw [mem_pending_or_mem_external_resolveEntry, isMissing, Bool.and_eq_true, Bool.not_eq_true',
      Bool.not_eq_true']
    exact and_congr_left fun missing => (shallow.reaches_iff missing.1).symm
  · exact shallow.mem_resolveEntry_iff (x := .category c) trivial
  · exact shallow.mem_resolveEntry_iff (x := .disclosure d) trivial

end Program

open Sample in
set_option maxRecDepth 10000 in
/-- A page runs a missing base method and loads from a store, which is a disk. -/
theorem Program.resolution_agrees_with_graph_page :
    let p := (Session.after {}
      [.ingest page, .ingest (implementor "Disk" "Email" (method "Store" "load"))]).program
    let g := CallGraph.ofProgram p
    let e := method "Page" "show"
    let f := p.resolveEntry 4 e
    p.Shallow ∧
      ((∀ m, m ∈ f.interfaces ↔ g.Reaches e m ∧ p.dispatch.isImplemented m) ∧
        (∀ m, m ∈ f.pending ∨ m ∈ f.external ↔ g.Reaches e m ∧
          p.registry.contains m = false ∧ p.dispatch.isImplemented m = false) ∧
        (∀ c, c ∈ f.categories ↔
          ∃ m r, g.Reaches e m ∧ p.registry.find? m = some r ∧ c ∈ r.categories) ∧
        ∀ d, d ∈ f.disclosures ↔
          ∃ m r, g.Reaches e m ∧ p.registry.find? m = some r ∧ d ∈ r.disclosures) ∧
      f.interfaces = .ofList [method "Store" "load"] ∧ f.pending = .ofList [method "Base" "run"] ∧
      f.categories = .ofList ["Email"] ∧ g.Reaches e (method "Disk" "go") := by
  intro p g e f
  have layered : p.Layered := by decide +kernel
  have shallow : p.Shallow := (Session.sound_after _ _).mirrored.shallow layered
  obtain ⟨_, _, _, agree⟩ := resolution_agrees_with_graph p 4 e
  have found : f.interfaces = .ofList [method "Store" "load"] ∧
      f.pending = .ofList [method "Base" "run"] ∧ f.categories = .ofList ["Email"] := by
    decide +kernel
  have stored : (method "Store" "load") ∈ f.interfaces := by
    rw [found.1]
    decide +kernel
  have listed : method "Disk" "go" ∈ p.dispatch.implementors (method "Store" "load") := by
    decide +kernel
  have disk : g.Reaches e (method "Disk" "go") :=
    (((agree shallow).1 _).mp stored).1.tail (CallGraph.leads_ofProgram.mpr (.inr listed))
  exact ⟨shallow, agree shallow, found.1, found.2.1, found.2.2, disk⟩

end DataTrail
