import Mathlib.Data.Set.Card
import DataTrail.Proofs.Cycles
import DataTrail.Proofs.Mirror
import DataTrail.Proofs.Resolution

/-! The call graph as it is exported. Its nodes and edges are those of the program and nothing else,
each once. The graph can be drawn from the registry and the dispatch table in whatever order their
contents come: every end of an edge is then found among the numbered nodes, and the drawing is the
same for all orders. -/

namespace DataTrail

section Listing

variable {α : Type}

theorem ncard_eq_length {S : Set α} {items : List α} (distinct : items.Nodup)
    (same : ∀ a, a ∈ items ↔ a ∈ S) : S.ncard = items.length := by
  classical
  have listed : S = (items.toFinset : Set α) := by
    ext a
    rw [← same, Finset.mem_coe, List.mem_toFinset]
  rw [listed, Set.ncard_coe_finset, List.toFinset_card_of_nodup distinct]

theorem mapM_eq_some_map {β : Type} {f : α → Option β} {g : α → β} {items : List α}
    (each : ∀ a ∈ items, f a = some (g a)) : items.mapM f = some (items.map g) := by
  rw [mapM_eq_some_iff, List.forall₂_map_right_iff, List.forall₂_same]
  exact each

/-- What is listed under methods, in their order. -/
def inMethodOrder (items : List (MethodId × α)) : List (MethodId × α) :=
  items.mergeSort fun a b => (compare a.1 b.1).isLE

/-- The contents of a map, in whatever order they come, are put into the order of the map. -/
theorem inMethodOrder_of_perm {t : Std.ExtTreeMap MethodId α} {items : List (MethodId × α)}
    (perm : items.Perm t.toList) : inMethodOrder items = t.toList := by
  have sorted : (inMethodOrder items).Pairwise fun a b => (compare a.1 b.1).isLE := by
    apply List.pairwise_mergeSort
    · intro a b c
      exact Std.TransOrd.isLE_trans
    · intro a b
      rw [Std.OrientedOrd.eq_swap (a := b.1)]
      cases compare a.1 b.1 <;> rfl
  have ordered : t.toList.Pairwise fun a b => (compare a.1 b.1).isLE := by
    refine Std.ExtTreeMap.ordered_keys_toList.imp fun {a b} less => ?_
    rw [less]
    rfl
  have same : (inMethodOrder items).Perm t.toList := (List.mergeSort_perm items _).trans perm
  refine same.eq_of_pairwise (fun a b ha hb less greater => ?_) sorted ordered
  -- A map has one entry for each method.
  have key : a.1 = b.1 := Std.LawfulEqOrd.eq_of_compare (Std.OrientedCmp.isLE_antisymm less greater)
  have ha := Std.ExtTreeMap.mem_toList_iff_getElem?_eq_some.mp (same.mem_iff.mp ha)
  have hb := Std.ExtTreeMap.mem_toList_iff_getElem?_eq_some.mp hb
  rw [key, hb] at ha
  exact Prod.ext key (Option.some.inj ha).symm

end Listing

namespace Dispatch

/-- The table to which the pairs of an interface method and an implementor were added in turn. -/
def ofPairs (pairs : List (MethodId × MethodId)) : Dispatch :=
  pairs.foldl (fun d pair => d.add pair.1 pair.2) .empty

theorem tidy_ofPairs (pairs : List (MethodId × MethodId)) : (ofPairs pairs).Tidy := by
  have none : Dispatch.empty.Tidy := by
    intro i js listed
    simp [empty] at listed
  exact List.foldlRecOn (motive := Tidy) pairs _ none fun d tidy pair _ => tidy.add pair.1 pair.2

theorem Tidy.isImplemented_iff {d : Dispatch} (h : d.Tidy) {i : MethodId} :
    d.isImplemented i ↔ ∃ js, d.table[i]? = some js := by
  rw [Dispatch.isImplemented_iff]
  constructor
  · rintro ⟨j, listed⟩
    obtain ⟨js, listed, _⟩ := mem_implementors.mp listed
    exact ⟨js, listed⟩
  · rintro ⟨js, listed⟩
    obtain ⟨j, rest, rfl⟩ := List.exists_cons_of_ne_nil (h i js listed).1
    exact ⟨j, mem_implementors.mpr ⟨_, listed, List.mem_cons_self⟩⟩

end Dispatch

namespace Program

/-- The method is registered, called, implemented or an implementor. -/
def Mentions (p : Program) (m : MethodId) : Prop :=
  p.registry.contains m ∨ (∃ a, p.Calls a m) ∨ p.dispatch.isImplemented m ∨
    ∃ i, m ∈ p.dispatch.implementors i

end Program

namespace CallGraph

variable {p : Program} {g : CallGraph} {a b m : MethodId}

section Faithful

theorem mem_nodes_ofProgram (tidy : p.dispatch.Tidy) :
    m ∈ (ofProgram p).nodes ↔ p.Mentions m := by
  rw [ofProgram, Std.ExtTreeSet.mem_toList, mem_mentioned, Program.Mentions,
    Registry.contains_eq_isSome_find?, Option.isSome_iff_exists, tidy.isImplemented_iff]
  constructor
  · rintro (⟨j, r, known, rfl | called⟩ | ⟨i, js, listed, rfl | hm⟩)
    · exact .inl ⟨r, known⟩
    · exact .inr (.inl ⟨j, r, known, called⟩)
    · exact .inr (.inr (.inl ⟨js, listed⟩))
    · exact .inr (.inr (.inr ⟨i, Dispatch.mem_implementors.mpr ⟨js, listed, hm⟩⟩))
  · rintro (⟨r, known⟩ | ⟨j, r, known, called⟩ | ⟨js, listed⟩ | ⟨i, implements⟩)
    · exact .inl ⟨m, r, known, .inl rfl⟩
    · exact .inl ⟨j, r, known, .inr called⟩
    · exact .inr ⟨m, js, listed, .inl rfl⟩
    · obtain ⟨js, listed, hm⟩ := Dispatch.mem_implementors.mp implements
      exact .inr ⟨i, js, listed, .inr hm⟩

theorem call_mem_edges : ⟨a, b, .call⟩ ∈ (ofProgram p).edges ↔ p.Calls a b := by
  simp [ofProgram, mem_callEdges, mem_implementationEdges, Program.Calls]

theorem implementation_mem_edges :
    ⟨a, b, .implementation⟩ ∈ (ofProgram p).edges ↔ b ∈ p.dispatch.implementors a := by
  simp [ofProgram, mem_callEdges, mem_implementationEdges]

/-- Edges that are listed source by source differ if the targets of each source do. -/
theorem nodup_flatMap_edges {α : Type} {t : Std.ExtTreeMap MethodId α} {kind : EdgeKind}
    (targets : α → List MethodId) (distinct : ∀ entry ∈ t.toList, (targets entry.2).Nodup) :
    (t.toList.flatMap fun entry =>
      (targets entry.2).map fun n => (⟨entry.1, n, kind⟩ : Edge)).Nodup := by
  refine List.nodup_flatMap.mpr ⟨fun entry listed => ?_, ?_⟩
  · exact (distinct entry listed).map fun n n' same => (Edge.mk.inj same).2.1
  · refine Std.ExtTreeMap.distinct_keys_toList.imp fun {x y} differ edge hx hy => ?_
    obtain ⟨n, _, rfl⟩ := List.mem_map.mp hx
    obtain ⟨n', _, same⟩ := List.mem_map.mp hy
    simp [(Edge.mk.inj same).1] at differ

theorem nodup_callEdges (p : Program) : (callEdges p).Nodup :=
  nodup_flatMap_edges (fun r : Record => r.callees.toList) fun entry _ =>
    nodup_toList entry.2.callees

theorem nodup_implementationEdges (tidy : p.dispatch.Tidy) : (implementationEdges p).Nodup := by
  refine nodup_flatMap_edges id fun entry listed => ?_
  exact (tidy entry.1 entry.2 (Std.ExtTreeMap.mem_toList_iff_getElem?_eq_some.mp listed)).2

theorem nodup_edges_ofProgram (tidy : p.dispatch.Tidy) : (ofProgram p).edges.Nodup := by
  refine List.nodup_append'.mpr
    ⟨nodup_callEdges p, nodup_implementationEdges tidy, fun edge call implementation => ?_⟩
  have kind := (mem_callEdges.mp call).1
  rw [(mem_implementationEdges.mp implementation).1] at kind
  contradiction

theorem countP_kind {edges : List Edge} {own : EdgeKind} (all : ∀ edge ∈ edges, edge.kind = own)
    (kind : EdgeKind) :
    edges.countP (·.kind = kind) = if own = kind then edges.length else 0 := by
  split
  · rename_i same
    exact List.countP_eq_length.mpr fun edge mem => by simp [all edge mem, same]
  · rename_i other
    exact List.countP_eq_zero.mpr fun edge mem => by simp [all edge mem, other]

theorem countEdges_ofProgram (kind : EdgeKind) :
    (ofProgram p).countEdges kind =
      match kind with
      | .call => (callEdges p).length
      | .implementation => (implementationEdges p).length := by
  have calls := countP_kind (fun edge call => (mem_callEdges (p := p).mp call).1) kind
  have others := countP_kind (fun edge other => (mem_implementationEdges (p := p).mp other).1) kind
  rw [countEdges, ofProgram, List.countP_append, calls, others]
  cases kind with
  | call => simp
  | implementation => simp

/-- The edges of a kind are as many as the pairs that they join. -/
theorem ncard_pairs {edges : List Edge} {kind : EdgeKind} (R : MethodId → MethodId → Prop)
    (distinct : edges.Nodup)
    (same : ∀ edge, edge ∈ edges ↔ edge.kind = kind ∧ R edge.source edge.target) :
    {pair : MethodId × MethodId | R pair.1 pair.2}.ncard = edges.length := by
  have length : (edges.map fun edge => (edge.source, edge.target)).length = edges.length :=
    List.length_map _
  rw [← length]
  apply ncard_eq_length
  · refine distinct.map_on fun x hx y hy ends => ?_
    have kinds : x.kind = y.kind := ((same x).mp hx).1.trans ((same y).mp hy).1.symm
    cases x
    cases y
    simp_all
  · rintro ⟨a, b⟩
    simp only [List.mem_map, Prod.mk.injEq, Set.mem_ofPred_eq]
    constructor
    · rintro ⟨edge, listed, rfl, rfl⟩
      exact ((same edge).mp listed).2
    · intro related
      exact ⟨⟨a, b, kind⟩, (same _).mpr ⟨rfl, related⟩, rfl, rfl⟩

end Faithful

/-- How large a graph is. -/
structure Size where
  nodes : Nat
  calls : Nat
  implementations : Nat
  unresolved : Nat
deriving DecidableEq

def size (g : CallGraph) : Size where
  nodes := g.nodes.length
  calls := g.countEdges .call
  implementations := g.countEdges .implementation
  unresolved := g.unresolved.length

/-- A graph as it is drawn: its nodes are numbered from zero, and its edges join numbers. -/
structure Drawing where
  nodes : List MethodId
  edges : List (Nat × Nat × EdgeKind)
  size : Size
deriving DecidableEq

/-- An edge between the numbers of its ends. -/
def numbered (g : CallGraph) (edge : Edge) : Nat × Nat × EdgeKind :=
  (g.nodes.idxOf edge.source, g.nodes.idxOf edge.target, edge.kind)

def drawing (g : CallGraph) : Drawing where
  nodes := g.nodes
  edges := g.edges.map g.numbered
  size := g.size

section Drawing

/-- The methods that the entries name, first the method of the entry and then those listed under
it. -/
def gather (entries : List (MethodId × List MethodId)) : MethodSet :=
  entries.foldl (fun nodes entry => (nodes.insert entry.1).insertMany entry.2) ∅

/-- The numbers of the nodes. -/
def numbering (nodes : List MethodId) : Std.ExtTreeMap MethodId Nat := .ofList nodes.zipIdx

/-- The edges from the method of each entry to those listed under it. All must have numbers. -/
def edges? (number : Std.ExtTreeMap MethodId Nat) (kind : EdgeKind)
    (entries : List (MethodId × List MethodId)) : Option (List (Nat × Nat × EdgeKind)) := do
  let lists ← entries.mapM fun entry => do
    let source ← number[entry.1]?
    entry.2.mapM fun target => return (source, ← number[target]?, kind)
  return lists.flatten

/-- Draws the graph of `p` from its records and its lists of implementors, in whatever order these
come. -/
def draw? (p : Program) (records : List (MethodId × Record))
    (lists : List (MethodId × List MethodId)) : Option Drawing := do
  let callees := fun (entry : MethodId × Record) => (entry.1, entry.2.callees.toList)
  let nodes := (gather (records.map callees ++ lists)).toList
  let number := numbering nodes
  let calls ← edges? number .call ((inMethodOrder records).map callees)
  let implementations ← edges? number .implementation (inMethodOrder lists)
  return { nodes
           edges := calls ++ implementations
           size := { nodes := number.size
                     calls := calls.length
                     implementations := implementations.length
                     unresolved := nodes.countP p.isMissing } }

theorem mem_gather {entries : List (MethodId × List MethodId)} :
    m ∈ gather entries ↔ ∃ entry ∈ entries, m = entry.1 ∨ m ∈ entry.2 := by
  rw [gather, foldl_iff _ (m ∈ ·) fun entry => m = entry.1 ∨ m ∈ entry.2]
  · exact or_iff_right Std.ExtTreeSet.not_mem_empty
  · intro nodes entry
    rw [Std.ExtTreeSet.mem_insertMany_list, List.contains_iff_mem, Std.ExtTreeSet.mem_insert,
      Std.LawfulEqCmp.compare_eq_iff_eq, eq_comm (a := entry.1)]
    tauto

theorem gather_of_perm {records : List (MethodId × Record)}
    {lists : List (MethodId × List MethodId)} (recorded : records.Perm p.registry.toList)
    (listed : lists.Perm p.dispatch.toList) :
    gather (records.map (fun entry => (entry.1, entry.2.callees.toList)) ++ lists) =
      mentioned p := by
  refine Std.ExtTreeSet.ext_mem fun m => ?_
  have known (j : MethodId) (r : Record) :
      (j, r) ∈ p.registry.toList ↔ p.registry.find? j = some r :=
    Std.ExtTreeMap.mem_toList_iff_getElem?_eq_some
  have implemented (i : MethodId) (js : List MethodId) :
      (i, js) ∈ p.dispatch.toList ↔ p.dispatch.table[i]? = some js :=
    Std.ExtTreeMap.mem_toList_iff_getElem?_eq_some
  rw [mem_gather, mem_mentioned]
  simp only [List.mem_append, or_and_right, exists_or, List.mem_map, exists_exists_and_eq_and,
    recorded.mem_iff, listed.mem_iff]
  simp only [Prod.exists, known, implemented, Std.ExtTreeSet.mem_toList]

theorem pairwise_zipIdx {nodes : List MethodId} (increasing : Increasing nodes) :
    nodes.zipIdx.Pairwise fun x y => ¬compare x.1 y.1 = .eq := by
  have keys : (nodes.zipIdx.map Prod.fst).Pairwise (compare · · = .lt) := by
    rw [List.zipIdx_map_fst]
    exact increasing
  refine (List.pairwise_map.mp keys).imp fun less => ?_
  simp [less]

theorem getElem?_numbering {nodes : List MethodId} (increasing : Increasing nodes)
    (node : m ∈ nodes) : (numbering nodes)[m]? = some (nodes.idxOf m) := by
  apply Std.ExtTreeMap.getElem?_ofList_of_mem Std.ReflOrd.compare_self (pairwise_zipIdx increasing)
  rw [List.mk_mem_zipIdx_iff_getElem?]
  exact List.getElem?_idxOf node

/-- Nodes have numbers, so edges between nodes can be drawn. -/
theorem WellFormed.edges?_eq (h : g.WellFormed) (kind : EdgeKind)
    {entries : List (MethodId × List MethodId)} (nodes : ∀ entry ∈ entries, entry.1 ∈ g.nodes)
    (leads : ∀ entry ∈ entries, ∀ n ∈ entry.2, g.Leads entry.1 n) :
    edges? (numbering g.nodes) kind entries =
      some ((entries.flatMap fun entry => entry.2.map fun n => ⟨entry.1, n, kind⟩).map
        g.numbered) := by
  have lists : entries.mapM (fun entry => do
        let source ← (numbering g.nodes)[entry.1]?
        entry.2.mapM fun target => return (source, ← (numbering g.nodes)[target]?, kind)) =
      some (entries.map fun entry => entry.2.map fun n => g.numbered ⟨entry.1, n, kind⟩) := by
    refine mapM_eq_some_map fun entry listed => ?_
    rw [getElem?_numbering h.increasing (nodes entry listed)]
    refine mapM_eq_some_map fun n target => ?_
    rw [getElem?_numbering h.increasing (h.target entry.1 n (leads entry listed n target))]
    rfl
  rw [edges?, lists, List.map_flatMap, List.flatMap_def]
  simp [Function.comp_def]

theorem draw?_of_perm {records : List (MethodId × Record)}
    {lists : List (MethodId × List MethodId)} (recorded : records.Perm p.registry.toList)
    (listed : lists.Perm p.dispatch.toList) :
    draw? p records lists = some (ofProgram p).drawing := by
  have wellFormed := wellFormed_ofProgram p
  have nodes : (mentioned p).toList = (ofProgram p).nodes := rfl
  have numbers : (numbering (ofProgram p).nodes).size = (ofProgram p).nodes.length := by
    rw [numbering, Std.ExtTreeMap.size_ofList (pairwise_zipIdx wellFormed.increasing),
      List.length_zipIdx]
  have calls : edges? (numbering (ofProgram p).nodes) .call
      (p.registry.toList.map fun entry => (entry.1, entry.2.callees.toList)) =
      some ((callEdges p).map (ofProgram p).numbered) := by
    have known (entry : MethodId × Record) (mem : entry ∈ p.registry.toList) :
        p.registry.find? entry.1 = some entry.2 :=
      Std.ExtTreeMap.mem_toList_iff_getElem?_eq_some.mp mem
    rw [wellFormed.edges?_eq, List.flatMap_map]
    · rfl
    · refine List.forall_mem_map.mpr fun entry mem => ?_
      exact Std.ExtTreeSet.mem_toList.mpr
        (mem_mentioned.mpr (.inl ⟨_, _, known entry mem, .inl rfl⟩))
    · refine List.forall_mem_map.mpr fun entry mem n called => ?_
      exact leads_ofProgram.mpr (.inl ⟨_, known entry mem, Std.ExtTreeSet.mem_toList.mp called⟩)
  have implementations : edges? (numbering (ofProgram p).nodes) .implementation
      p.dispatch.toList = some ((implementationEdges p).map (ofProgram p).numbered) := by
    have implemented (entry : MethodId × List MethodId) (mem : entry ∈ p.dispatch.toList) :
        p.dispatch.table[entry.1]? = some entry.2 :=
      Std.ExtTreeMap.mem_toList_iff_getElem?_eq_some.mp mem
    rw [wellFormed.edges?_eq]
    · rfl
    · intro entry mem
      exact Std.ExtTreeSet.mem_toList.mpr
        (mem_mentioned.mpr (.inr ⟨_, _, implemented entry mem, .inl rfl⟩))
    · intro entry mem n implements
      exact leads_ofProgram.mpr
        (.inr (Dispatch.mem_implementors.mpr ⟨_, implemented entry mem, implements⟩))
  have records : inMethodOrder records = p.registry.toList := inMethodOrder_of_perm recorded
  have lists : inMethodOrder lists = p.dispatch.toList := inMethodOrder_of_perm listed
  simp only [draw?, gather_of_perm recorded listed, nodes, numbers, records, lists, calls,
    implementations, drawing, size, countEdges_ofProgram]
  simp [ofProgram, List.countP_eq_length_filter]

end Drawing

/-- How many methods `p` mentions, how many calls and implementors it has, and how many of the
methods are neither registered nor implemented. -/
noncomputable def Size.ofProgram (p : Program) : Size where
  nodes := {m | p.Mentions m}.ncard
  calls := {pair : MethodId × MethodId | p.Calls pair.1 pair.2}.ncard
  implementations := {pair : MethodId × MethodId | pair.2 ∈ p.dispatch.implementors pair.1}.ncard
  unresolved :=
    {m | p.Mentions m ∧ p.dispatch.implementors m = [] ∧ p.registry.find? m = none}.ncard

theorem size_ofProgram (tidy : p.dispatch.Tidy) : (ofProgram p).size = .ofProgram p := by
  have increasing := (wellFormed_ofProgram p).increasing
  have nodes : {m | p.Mentions m}.ncard = (ofProgram p).nodes.length :=
    ncard_eq_length increasing.nodup fun m => mem_nodes_ofProgram tidy
  have calls : {pair : MethodId × MethodId | p.Calls pair.1 pair.2}.ncard =
      (callEdges p).length :=
    ncard_pairs p.Calls (nodup_callEdges p) fun _ => mem_callEdges
  have implementations :
      {pair : MethodId × MethodId | pair.2 ∈ p.dispatch.implementors pair.1}.ncard =
        (implementationEdges p).length :=
    ncard_pairs (fun a b => b ∈ p.dispatch.implementors a) (nodup_implementationEdges tidy)
      fun _ => mem_implementationEdges
  have unresolved : {m | p.Mentions m ∧ p.dispatch.implementors m = [] ∧
      p.registry.find? m = none}.ncard = (ofProgram p).unresolved.length := by
    have listed : (ofProgram p).unresolved = (ofProgram p).nodes.filter p.isMissing := rfl
    rw [listed]
    refine ncard_eq_length (increasing.nodup.filter _) fun m => ?_
    rw [List.mem_filter, mem_nodes_ofProgram tidy, Program.isMissing_iff_eq_nil]
    rfl
  rw [Size.ofProgram, nodes, calls, implementations, unresolved, size, countEdges_ofProgram,
    countEdges_ofProgram]

/-- The exported graph of every registry and every dispatch table: its nodes are the methods that
are registered, called, implemented or implementors, in strictly increasing order; there is one edge
for each call and one for each implementor, and no other; and these are counted right. Drawing it
finds both ends of every edge, and gives the same drawing for all orders in which the records and
the lists of implementors come. -/
theorem export_faithful (registry : Registry) (pairs : List (MethodId × MethodId)) :
    let p : Program := { registry, dispatch := .ofPairs pairs }
    let g := ofProgram p
    (Increasing g.nodes ∧ ∀ m, m ∈ g.nodes ↔ p.Mentions m) ∧
      (g.edges.Nodup ∧ (∀ a b, ⟨a, b, .call⟩ ∈ g.edges ↔ p.Calls a b) ∧
        ∀ a b, ⟨a, b, .implementation⟩ ∈ g.edges ↔ b ∈ p.dispatch.implementors a) ∧
      g.size = .ofProgram p ∧
      ∀ records lists, records.Perm p.registry.toList → lists.Perm p.dispatch.toList →
        draw? p records lists = some g.drawing := by
  intro p g
  have tidy : p.dispatch.Tidy := Dispatch.tidy_ofPairs pairs
  refine ⟨⟨(wellFormed_ofProgram p).increasing, fun m => mem_nodes_ofProgram tidy⟩,
    ⟨nodup_edges_ofProgram tidy, fun a b => call_mem_edges, fun a b => implementation_mem_edges⟩,
    size_ofProgram tidy, fun records lists recorded listed => draw?_of_perm recorded listed⟩

open Sample in
set_option maxRecDepth 10000 in
/-- Two interface methods, one of them an implementor itself, and both maps read backwards. -/
theorem export_faithful_ring :
    let p : Program :=
      { registry := (ring door wall).registry
        dispatch := .ofPairs [(wall, door), (gate, door), (gate, wall), (gate, door)] }
    let records := p.registry.toList.reverse
    let lists := p.dispatch.toList.reverse
    (records.Perm p.registry.toList ∧ records.length = 3 ∧ lists.Perm p.dispatch.toList ∧
        lists = [(wall, [door]), (gate, [door, wall])]) ∧
      draw? p records lists = some (ofProgram p).drawing ∧
      (ofProgram p).size = { nodes := 7, calls := 7, implementations := 3, unresolved := 2 } := by
  intro p records lists
  obtain ⟨_, _, _, drawn⟩ := export_faithful (ring door wall).registry
    [(wall, door), (gate, door), (gate, wall), (gate, door)]
  have recorded : records.Perm p.registry.toList := List.reverse_perm _
  have listed : lists.Perm p.dispatch.toList := List.reverse_perm _
  refine ⟨⟨recorded, ?_, listed, ?_⟩, drawn records lists recorded listed, ?_⟩
  · decide +kernel
  · decide +kernel
  · decide +kernel

end CallGraph

end DataTrail
