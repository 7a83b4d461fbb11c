import DataTrail.Proofs.CallGraph

/-! The cycles of the call graph are exact. A path of a program takes calls and implementors as it
likes. Being on a closed path together is an equivalence among the methods that are on a closed path
at all, and the graph lists each of its classes once, in order, under its first method. -/

namespace DataTrail

namespace Program

/-- The record of `a` lists `b` among its callees. -/
def Calls (p : Program) (a b : MethodId) : Prop :=
  ∃ r, p.registry.find? a = some r ∧ b ∈ r.callees

/-- One step of a path: a call, or the choice of an implementor. -/
def Passes (p : Program) (a b : MethodId) : Prop :=
  p.Calls a b ∨ b ∈ p.dispatch.implementors a

end Program

namespace CallGraph

variable {p : Program} {g : CallGraph} {k m n : MethodId} {c : List MethodId}

theorem leads_eq_passes : (ofProgram p).Leads = p.Passes := by
  funext a b
  exact propext leads_ofProgram

theorem mem_mentioned :
    m ∈ mentioned p ↔
      (∃ j r, p.registry.find? j = some r ∧ (m = j ∨ m ∈ r.callees)) ∨
        ∃ i js, p.dispatch.table[i]? = some js ∧ (m = i ∨ m ∈ js) := by
  simp only [mentioned, Std.ExtTreeSet.mem_ofList, List.contains_iff_mem, List.mem_append,
    List.mem_flatMap, Prod.exists, List.mem_cons, Std.ExtTreeSet.mem_toList, Registry.toList,
    Dispatch.toList, Std.ExtTreeMap.mem_toList_iff_getElem?_eq_some]
  rfl

/-- The nodes are in order, and every edge joins two of them. -/
structure WellFormed (g : CallGraph) : Prop where
  increasing : Increasing g.nodes
  source : ∀ m n, g.Leads m n → m ∈ g.nodes
  target : ∀ m n, g.Leads m n → n ∈ g.nodes

theorem wellFormed_ofProgram (p : Program) : (ofProgram p).WellFormed where
  increasing := increasing_toList (mentioned p)
  source m n edge := by
    refine Std.ExtTreeSet.mem_toList.mpr (mem_mentioned.mpr ?_)
    rcases leads_ofProgram.mp edge with ⟨r, known, _⟩ | listed
    · exact .inl ⟨m, r, known, .inl rfl⟩
    · obtain ⟨js, listed, _⟩ := Dispatch.mem_implementors.mp listed
      exact .inr ⟨m, js, listed, .inl rfl⟩
  target m n edge := by
    refine Std.ExtTreeSet.mem_toList.mpr (mem_mentioned.mpr ?_)
    rcases leads_ofProgram.mp edge with ⟨r, known, called⟩ | listed
    · exact .inl ⟨m, r, known, .inr called⟩
    · obtain ⟨js, listed, hn⟩ := Dispatch.mem_implementors.mp listed
      exact .inr ⟨m, js, listed, .inr hn⟩

theorem mem_adjacency : n ∈ g.adjacency.getD m [] ↔ g.Leads m n := by
  have step : ∀ (t : Std.ExtTreeMap MethodId (List MethodId)) (edge : Edge),
      n ∈ (t.insert edge.source (t.getD edge.source [] ++ [edge.target])).getD m [] ↔
        n ∈ t.getD m [] ∨ edge.source = m ∧ edge.target = n := by
    intro t edge
    rw [Std.ExtTreeMap.getD_insert]
    by_cases hm : edge.source = m
    · subst hm
      simp [eq_comm]
    · simp [hm]
  rw [adjacency, foldl_iff _ (n ∈ Std.ExtTreeMap.getD · m [])
    (fun edge => edge.source = m ∧ edge.target = n) step]
  simp only [Std.ExtTreeMap.getD_empty, List.not_mem_nil, false_or, Leads]
  constructor
  · rintro ⟨⟨_, _, kind⟩, edge, rfl, rfl⟩
    exact ⟨kind, edge⟩
  · rintro ⟨kind, edge⟩
    exact ⟨_, edge, rfl, rfl⟩

/-- The search along the edges of a node finds what one edge or more lead to. -/
theorem WellFormed.reachesIn_iff (h : g.WellFormed) :
    ReachesIn (fun m => g.adjacency.getD m []) (.ofList g.nodes) (g.adjacency.getD m []) n ↔
      Relation.TransGen g.Leads m n := by
  have fresh {k l : MethodId} (edge : g.Leads k l) :
      l ∈ (Std.ExtTreeSet.ofList g.nodes : MethodSet) := by
    simpa using h.target k l edge
  constructor
  · intro found
    induction found with
    | start first _ => exact .single (mem_adjacency.mp first)
    | step _ next _ ih => exact ih.tail (mem_adjacency.mp next)
  · intro reached
    induction reached with
    | single edge => exact .start (mem_adjacency.mpr edge) (fresh edge)
    | tail _ edge ih => exact .step ih (mem_adjacency.mpr edge) (fresh edge)

theorem WellFormed.mem_descendants (h : g.WellFormed) (node : m ∈ g.nodes) :
    n ∈ g.descendants.getD m ∅ ↔ Relation.TransGen g.Leads m n := by
  have distinct : (g.nodes.map fun m =>
      (m, (Std.ExtTreeSet.ofList (explore (fun m => g.adjacency.getD m []) (.ofList g.nodes)
        (g.adjacency.getD m [])) : MethodSet))).Pairwise fun a b => ¬compare a.1 b.1 = .eq := by
    rw [List.pairwise_map]
    exact h.increasing.imp fun less => by simp [less]
  rw [descendants, Std.ExtTreeMap.getD_ofList_of_mem Std.ReflOrd.compare_self distinct
    (List.mem_map_of_mem node), Std.ExtTreeSet.mem_ofList, List.contains_iff_mem, mem_explore_iff,
    h.reachesIn_iff]

/-- A closed path goes through `m` and `n`. -/
def Joined (g : CallGraph) (m n : MethodId) : Prop :=
  Relation.TransGen g.Leads m n ∧ Relation.TransGen g.Leads n m

theorem Joined.symm (h : g.Joined m n) : g.Joined n m := ⟨h.2, h.1⟩

theorem Joined.trans (h : g.Joined k m) (h' : g.Joined m n) : g.Joined k n :=
  ⟨h.1.trans h'.1, h'.2.trans h.2⟩

theorem joined_self : g.Joined m m ↔ Relation.TransGen g.Leads m m := and_self_iff

theorem joined_iff :
    g.Joined m n ↔ g.Reaches m n ∧ g.Reaches n m ∧ Relation.TransGen g.Leads m m ∧
      Relation.TransGen g.Leads n n := by
  constructor
  · rintro ⟨there, back⟩
    exact ⟨there.to_reflTransGen, back.to_reflTransGen, there.trans back, back.trans there⟩
  · rintro ⟨there, back, closed, closed'⟩
    exact ⟨closed.trans_left there, closed'.trans_left back⟩

/-- The nodes that are joined with `m`, in order. -/
def partOf (g : CallGraph) (m : MethodId) : List MethodId :=
  g.nodes.filter fun n =>
    (g.descendants.getD m ∅).contains n && (g.descendants.getD n ∅).contains m

namespace WellFormed

theorem joins_iff (h : g.WellFormed) (hm : m ∈ g.nodes) (hn : n ∈ g.nodes) :
    ((g.descendants.getD m ∅).contains n && (g.descendants.getD n ∅).contains m) = true ↔
      g.Joined m n := by
  rw [Bool.and_eq_true, Std.ExtTreeSet.contains_iff_mem, Std.ExtTreeSet.contains_iff_mem,
    h.mem_descendants hm, h.mem_descendants hn, Joined]

theorem node_of_transGen (h : g.WellFormed) (path : Relation.TransGen g.Leads m n) :
    m ∈ g.nodes := by
  obtain ⟨k, edge, _⟩ := Relation.TransGen.head'_iff.mp path
  exact h.source m k edge

theorem mem_partOf (h : g.WellFormed) (node : m ∈ g.nodes) : n ∈ g.partOf m ↔ g.Joined m n := by
  rw [partOf, List.mem_filter]
  constructor
  · rintro ⟨hn, joins⟩
    exact (h.joins_iff node hn).mp joins
  · intro joined
    have hn := h.node_of_transGen joined.2
    exact ⟨hn, (h.joins_iff node hn).mpr joined⟩

theorem partOf_eq (h : g.WellFormed) (joined : g.Joined m n) : g.partOf m = g.partOf n := by
  have hm := h.node_of_transGen joined.1
  have hn := h.node_of_transGen joined.2
  refine List.filter_congr fun k hk => ?_
  rw [Bool.eq_iff_iff, h.joins_iff hm hk, h.joins_iff hn hk]
  exact ⟨joined.symm.trans, joined.trans⟩

end WellFormed

theorem node_of_head (head : (g.partOf m).head? = some m) : m ∈ g.nodes :=
  List.mem_of_mem_filter (List.mem_of_head? head)

theorem mem_cycles : c ∈ g.cycles ↔ ∃ m, (g.partOf m).head? = some m ∧ g.partOf m = c := by
  rw [cycles, List.mem_filterMap]
  simp only [Option.ite_none_right_eq_some, Option.some.injEq]
  constructor
  · rintro ⟨m, _, listed⟩
    exact ⟨m, listed⟩
  · rintro ⟨m, listed⟩
    exact ⟨m, node_of_head listed.1, listed⟩

/-- Two methods are listed together just when they are joined. -/
theorem WellFormed.exists_mem_cycles_iff (h : g.WellFormed) :
    (∃ c ∈ g.cycles, m ∈ c ∧ n ∈ c) ↔ g.Joined m n := by
  constructor
  · rintro ⟨c, listed, hm, hn⟩
    obtain ⟨k, head, rfl⟩ := mem_cycles.mp listed
    have node := node_of_head head
    exact ((h.mem_partOf node).mp hm).symm.trans ((h.mem_partOf node).mp hn)
  · intro joined
    have node := h.node_of_transGen joined.1
    have hm : m ∈ g.partOf m := (h.mem_partOf node).mpr (joined.trans joined.symm)
    have hn : n ∈ g.partOf m := (h.mem_partOf node).mpr joined
    -- The part of `m` is listed under its first method.
    obtain ⟨k, rest, part⟩ := List.exists_cons_of_ne_nil (List.ne_nil_of_mem hm)
    have first : g.Joined m k := (h.mem_partOf node).mp (part ▸ List.mem_cons_self)
    have same := h.partOf_eq first
    refine ⟨g.partOf m, mem_cycles.mpr ⟨k, ?_, same.symm⟩, hm, hn⟩
    rw [← same, part, List.head?_cons]

/-- The cycles follow the order of their first methods. -/
theorem WellFormed.pairwise_cycles (h : g.WellFormed) {R : List MethodId → List MethodId → Prop}
    (less : ∀ m n, compare m n = .lt → (g.partOf m).head? = some m → (g.partOf n).head? = some n →
      R (g.partOf m) (g.partOf n)) : g.cycles.Pairwise R := by
  rw [cycles, List.pairwise_filterMap]
  refine h.increasing.imp fun {m n} order => ?_
  simp only [Option.ite_none_right_eq_some, Option.some.injEq]
  rintro _ ⟨head, rfl⟩ _ ⟨head', rfl⟩
  exact less m n order head head'

theorem WellFormed.increasing_cycles (h : g.WellFormed) : Increasing g.cycles := by
  refine h.pairwise_cycles fun m n order head head' => ?_
  obtain ⟨rest, part⟩ := List.head?_eq_some_iff.mp head
  obtain ⟨rest', part'⟩ := List.head?_eq_some_iff.mp head'
  rw [part, part', List.compare_cons_cons, order, Ordering.lt_then]

theorem WellFormed.disjoint_cycles (h : g.WellFormed) : g.cycles.Pairwise List.Disjoint := by
  refine h.pairwise_cycles fun m n order head head' k hm hn => ?_
  have joined : g.Joined m n := ((h.mem_partOf (node_of_head head)).mp hm).trans
    ((h.mem_partOf (node_of_head head')).mp hn).symm
  rw [h.partOf_eq joined, head', Option.some.injEq] at head
  simp [head, Std.ReflOrd.compare_self] at order

/-- The cycles of a program's call graph are in strictly increasing order, none is empty, each is in
strictly increasing order, and no two share a method. They list just the methods on closed paths of
the program, and two of these together just when each is reached from the other. -/
theorem cycles_exact (p : Program) :
    let cycles := (ofProgram p).cycles
    Increasing cycles ∧ (∀ c ∈ cycles, c ≠ [] ∧ Increasing c) ∧ cycles.Pairwise List.Disjoint ∧
      (∀ m, (∃ c ∈ cycles, m ∈ c) ↔ Relation.TransGen p.Passes m m) ∧
      ∀ m n, (∃ c ∈ cycles, m ∈ c ∧ n ∈ c) ↔
        Relation.ReflTransGen p.Passes m n ∧ Relation.ReflTransGen p.Passes n m ∧
          Relation.TransGen p.Passes m m ∧ Relation.TransGen p.Passes n n := by
  have wellFormed : (ofProgram p).WellFormed := wellFormed_ofProgram p
  rw [← leads_eq_passes]
  refine ⟨wellFormed.increasing_cycles, fun c listed => ?_, wellFormed.disjoint_cycles, fun m => ?_,
    fun m n => wellFormed.exists_mem_cycles_iff.trans joined_iff⟩
  · obtain ⟨m, head, rfl⟩ := mem_cycles.mp listed
    exact ⟨List.ne_nil_of_mem (List.mem_of_head? head), wellFormed.increasing.filter _⟩
  · rw [← joined_self, ← wellFormed.exists_mem_cycles_iff]
    simp only [and_self]

end CallGraph

namespace Sample

/-- `A` and `B` call each other, `C` calls itself, and a clock rings the bell whose implementor it
is. A guest calls `A` and is called by none. -/
def circles : Program where
  registry := [(Facts.bare (method "A" "a")).calling (method "B" "b"),
      (Facts.bare (method "B" "b")).calling (method "A" "a"),
      (Facts.bare (method "C" "c")).calling (method "C" "c"),
      (Facts.bare (method "Clock" "strike")).calling (method "Bell" "ring"),
      (Facts.bare (method "Guest" "call")).calling (method "A" "a")].foldl
    (fun r f => r.register f.method (.ofFacts f)) .empty
  dispatch := Dispatch.empty.add (method "Bell" "ring") (method "Clock" "strike")

end Sample

open Sample in
set_option maxRecDepth 10000 in
/-- The clock and the bell are on a closed path of a call and an implementation. -/
theorem CallGraph.cycles_exact_circles :
    let p := circles
    let cycles := (ofProgram p).cycles
    cycles = [[method "A" "a", method "B" "b"], [method "Bell" "ring", method "Clock" "strike"],
        [method "C" "c"]] ∧
      Relation.ReflTransGen p.Passes (method "A" "a") (method "B" "b") ∧
      Relation.TransGen p.Passes (method "C" "c") (method "C" "c") ∧
      Relation.TransGen p.Passes (method "Bell" "ring") (method "Bell" "ring") ∧
      ¬Relation.TransGen p.Passes (method "Guest" "call") (method "Guest" "call") := by
  intro p cycles
  obtain ⟨_, _, _, closed, together⟩ := cycles_exact p
  have listed : cycles = [[method "A" "a", method "B" "b"],
      [method "Bell" "ring", method "Clock" "strike"], [method "C" "c"]] := by decide +kernel
  have unlisted : ∀ c ∈ cycles, method "Guest" "call" ∉ c := by
    rw [listed]
    decide +kernel
  refine ⟨listed, ?_, ?_, ?_, fun path => ?_⟩
  · exact ((together _ _).mp ⟨[method "A" "a", method "B" "b"], by simp [listed, cycles]⟩).1
  · exact (closed _).mp ⟨[method "C" "c"], by simp [listed, cycles]⟩
  · exact (closed _).mp ⟨[method "Bell" "ring", method "Clock" "strike"], by simp [listed, cycles]⟩
  · obtain ⟨c, hc, guest⟩ := (closed _).mpr path
    exact unlisted c hc guest

end DataTrail
