import Mathlib.Order.Bounds.Defs
import DataTrail.Proofs.Wakeup

/-! Resolving is exact on every program, whatever its records call and whichever implementors its
dispatch table lists: it visits the least set of methods that holds the entry point and that control
does not leave, each of them once, and finds what these yield. A resolution may also go on from one
start to the next without entering a method twice. What was visited is then never left again, so all
that is skipped has been found before. -/

namespace DataTrail

namespace Program

variable {p : Program} {m : MethodId} {r : Record}

/-- A call of `m` may run the record `r`: that of a registered implementor if `m` has implementors,
and otherwise its own. -/
inductive Runs (p : Program) (m : MethodId) (r : Record) : Prop where
  | implementor {j : MethodId} (listed : j ∈ p.dispatch.implementors m)
      (known : p.registry.find? j = some r)
  | own (none : p.dispatch.implementors m = []) (known : p.registry.find? m = some r)

theorem mem_recordsOf_iff : r ∈ p.recordsOf m ↔ p.Runs m r := by
  unfold recordsOf
  split
  case h_1 none =>
    rw [Option.mem_toList]
    constructor
    · exact .own none
    · rintro (⟨listed, _⟩ | ⟨_, known⟩)
      · simp [none] at listed
      · exact known
  case h_2 some =>
    rw [List.mem_filterMap]
    constructor
    · rintro ⟨j, listed, known⟩
      exact .implementor listed known
    · rintro (⟨listed, known⟩ | ⟨none, _⟩)
      · exact ⟨_, listed, known⟩
      · exact absurd none some

/-- Control stays in `S` once it is there. -/
def Keeps (p : Program) (S : Set MethodId) : Prop :=
  ∀ m ∈ S, ∀ r, p.Runs m r → ∀ k ∈ r.callees, k ∈ S

theorem isLeast_reaches (p : Program) (e : MethodId) :
    IsLeast {S : Set MethodId | e ∈ S ∧ p.Keeps S} {m | p.Reaches e m} := by
  refine ⟨⟨.refl, fun m reached r runs k called => ?_⟩, ?_⟩
  · exact .call reached (mem_calleesOf.mpr ⟨r, mem_recordsOf_iff.mpr runs, called⟩)
  · rintro S ⟨start, keeps⟩ m reached
    induction reached with
    | refl => exact start
    | call _ called ih =>
      obtain ⟨r, runs, called⟩ := mem_calleesOf.mp called
      exact keeps _ ih r (mem_recordsOf_iff.mp runs) _ called

end Program

/-- The findings are those of the methods of `reached`, with missing methods judged against the
namespace `scope`. -/
structure Findings.Exact (p : Program) (depth : Nat) (scope : String) (reached : Set MethodId)
    (found : Findings) : Prop where
  interfaces : ∀ m, m ∈ found.interfaces ↔ m ∈ reached ∧ p.dispatch.implementors m ≠ []
  categories : ∀ c, c ∈ found.categories ↔ ∃ m ∈ reached, ∃ r, p.Runs m r ∧ c ∈ r.categories
  disclosures : ∀ d, d ∈ found.disclosures ↔ ∃ m ∈ reached, ∃ r, p.Runs m r ∧ d ∈ r.disclosures
  pending : ∀ m, m ∈ found.pending ↔ m ∈ reached ∧ p.dispatch.implementors m = [] ∧
    p.registry.find? m = none ∧ m.namespaceAt depth = scope
  external : ∀ m, m ∈ found.external ↔ m ∈ reached ∧ p.dispatch.implementors m = [] ∧
    p.registry.find? m = none ∧ m.namespaceAt depth ≠ scope

namespace Program

variable {p q : Program} {depth : Nat} {scope : String} {m : MethodId}

theorem isImplemented_iff_ne_nil :
    p.dispatch.isImplemented m ↔ p.dispatch.implementors m ≠ [] := by
  simp [Dispatch.isImplemented]

theorem isMissing_iff_eq_nil :
    p.isMissing m ↔ p.dispatch.implementors m = [] ∧ p.registry.find? m = none := by
  rw [isMissing_iff, and_comm]
  simp [Dispatch.isImplemented]

theorem exact_of_mem {reached : Set MethodId} {found : Findings}
    (h : ∀ x, x ∈ found ↔ ∃ m ∈ reached, p.Yields depth scope m x) :
    found.Exact p depth scope reached where
  interfaces m := by
    rw [← Findings.interface_mem, h, ← isImplemented_iff_ne_nil]
    simp [Yields]
  categories c := by
    rw [← Findings.category_mem, h]
    simp only [Yields, mem_recordsOf_iff]
  disclosures d := by
    rw [← Findings.disclosure_mem, h]
    simp only [Yields, mem_recordsOf_iff]
  pending m := by
    rw [← Findings.pending_mem, h]
    simp [Yields, isMissing_iff_eq_nil, and_assoc]
  external m := by
    rw [← Findings.external_mem, h]
    simp [Yields, isMissing_iff_eq_nil, and_assoc]

section SameSets

variable (records : ∀ m, q.registry.find? m = p.registry.find? m)
  (implementors : ∀ m j, j ∈ q.dispatch.implementors m ↔ j ∈ p.dispatch.implementors m)

include records implementors

theorem Runs.of_same {r : Record} (runs : q.Runs m r) : p.Runs m r := by
  cases runs with
  | implementor listed known =>
    exact .implementor ((implementors m _).mp listed) (records _ ▸ known)
  | own none known =>
    refine .own ?_ (records m ▸ known)
    simpa only [List.eq_nil_iff_forall_not_mem, implementors] using none

/-- Programs with the same records and the same sets of implementors run the same. -/
theorem agreeAt_of_same (m : MethodId) : q.AgreeAt p m := by
  have none : q.dispatch.implementors m = [] ↔ p.dispatch.implementors m = [] := by
    simp only [List.eq_nil_iff_forall_not_mem, implementors]
  refine ⟨?_, ?_, fun r => ?_⟩
  · rw [Bool.eq_iff_iff, isImplemented_iff_ne_nil, isImplemented_iff_ne_nil, Ne, none]
  · rw [Bool.eq_iff_iff, isMissing_iff_eq_nil, isMissing_iff_eq_nil, none, records]
  · rw [mem_recordsOf_iff, mem_recordsOf_iff]
    exact ⟨.of_same records implementors,
      .of_same (fun m => (records m).symm) fun m j => (implementors m j).symm⟩

end SameSets

/-- On every program, an entry point is resolved by visiting each method that it reaches once. These
are the least set that holds the entry point and that control does not leave, and the findings are
theirs; so the order in which implementors were listed makes no difference. -/
theorem resolveEntry_exact (p : Program) (depth : Nat) (e : MethodId) :
    let found := p.resolveEntry depth e
    let visits := p.visits ∅ e
    let reached := {m | m ∈ visits}
    found = visits.foldl (p.observe depth (e.namespaceAt depth)) {} ∧ visits.Nodup ∧
      IsLeast {S : Set MethodId | e ∈ S ∧ p.Keeps S} reached ∧
      found.Exact p depth (e.namespaceAt depth) reached ∧
      ∀ q : Program, (∀ m, q.registry.find? m = p.registry.find? m) →
        (∀ m j, j ∈ q.dispatch.implementors m ↔ j ∈ p.dispatch.implementors m) →
        q.resolveEntry depth e = found := by
  intro found visits reached
  have visited : reached = {m | p.Reaches e m} := Set.ext fun m => mem_visits_iff
  rw [visited]
  refine ⟨rfl, nodup_visits p ∅ e, isLeast_reaches p e, exact_of_mem fun x => mem_resolveEntry, ?_⟩
  intro q records implementors
  exact resolveEntry_congr depth fun m _ => agreeAt_of_same records implementors m

end Program

namespace Sample

/-- A method that two others implement. -/
def gate : MethodId := method "Gate" "open"

def wall : MethodId := method "Wall" "open"

def door : MethodId := method "Door" "open"

/-- A method of another namespace. -/
def logger : MethodId := { owner := "org.log.api.core.Logger", name := "write" }

/-- A page and a form call each other, the page itself too, and the form opens a gate. The door goes
back to the page, turns a lock that is missing and writes to a log; nothing is known of the wall. -/
def ring (first second : MethodId) : Program where
  registry := [((Facts.bare (method "Page" "show")).calling (method "Page" "show")).calling
        (method "Form" "send"),
      (((Facts.bare (method "Form" "send")).calling (method "Page" "show")).calling gate).handling
        "Phone",
      (((Facts.bare door).calling (method "Page" "show")).calling (method "Lock" "turn")).calling
        logger |>.handling "Email"].foldl (fun r f => r.register f.method (.ofFacts f)) .empty
  dispatch := (Dispatch.empty.add gate first).add gate second

end Sample

open Sample in
set_option maxRecDepth 10000 in
/-- Calls in circles, an implementor that is not registered, and two orders of the implementors. -/
theorem Program.resolveEntry_exact_ring :
    let p := ring door wall
    let q := ring wall door
    let e := method "Page" "show"
    let found := p.resolveEntry 4 e
    ((∀ m, q.registry.find? m = p.registry.find? m) ∧
        (∀ m j, j ∈ q.dispatch.implementors m ↔ j ∈ p.dispatch.implementors m) ∧
        q.dispatch.implementors gate ≠ p.dispatch.implementors gate) ∧
      (p.visits ∅ e).Nodup ∧
      IsLeast {S : Set MethodId | e ∈ S ∧ p.Keeps S} {m | m ∈ p.visits ∅ e} ∧
      found.Exact p 4 (e.namespaceAt 4) {m | m ∈ p.visits ∅ e} ∧
      q.resolveEntry 4 e = found ∧
      found.categories.toList = ["Email", "Phone"] ∧
      found.pending.toList = [method "Lock" "turn"] := by
  intro p q e found
  obtain ⟨_, once, least, exact, congr⟩ := resolveEntry_exact p 4 e
  have implementors : ∀ m j, j ∈ q.dispatch.implementors m ↔ j ∈ p.dispatch.implementors m := by
    intro m j
    simp only [p, q, ring, Dispatch.mem_implementors_add, Dispatch.implementors_empty]
    rw [or_assoc, or_assoc, or_comm (a := gate = m ∧ wall = j)]
  have records : ∀ m, q.registry.find? m = p.registry.find? m := by
    intro m
    simp only [p, q, ring]
  refine ⟨⟨records, implementors, ?_⟩, once, least, exact, congr q records implementors, ?_, ?_⟩
  · decide +kernel
  · decide +kernel
  · decide +kernel

section Shared

variable {p : Program} {depth : Nat} {scope : String} {starts : List MethodId} {done : Progress}

/-- All that is reached from the starts is visited and nothing else, and what was found is what the
visited methods yield. -/
structure Progress.Covers (p : Program) (depth : Nat) (scope : String) (starts : List MethodId)
    (done : Progress) : Prop where
  visited : ∀ m, m ∈ done.visited ↔ p.ReachedFrom starts m
  findings : ∀ x, x ∈ done.findings ↔ ∃ m ∈ done.visited, p.Yields depth scope m x

theorem Progress.Covers.closed (h : done.Covers p depth scope starts) : p.Closed done.visited := by
  intro m visited k called
  obtain ⟨e, he, reached⟩ := (h.visited m).mp visited
  exact (h.visited k).mpr ⟨e, he, .call reached called⟩

theorem Program.mem_visited_resume {e m : MethodId} :
    m ∈ (p.resume depth scope done e).visited ↔
      m ∈ done.visited ∨ m ∈ p.visits done.visited e := by
  rw [resume, Std.ExtTreeSet.mem_insertMany_list, List.contains_iff_mem]

/-- One more start adds the methods that it reaches and that were not visited, and what they
yield. -/
theorem Progress.Covers.resume (h : done.Covers p depth scope starts) (e : MethodId) :
    (p.resume depth scope done e).Covers p depth scope (starts ++ [e]) where
  visited m := by
    have split : p.ReachedFrom (starts ++ [e]) m ↔ p.ReachedFrom starts m ∨ p.Reaches e m := by
      simp [Program.ReachedFrom, or_and_right, exists_or]
    -- Control does not leave what was visited, so nothing new lies behind it.
    rw [Program.mem_visited_resume, Program.mem_visits_of_closed h.closed, split, h.visited]
    by_cases old : p.ReachedFrom starts m <;> simp [old]
  findings x := by
    simp only [Program.mem_visited_resume, or_and_right, exists_or]
    exact Program.mem_resolve.trans (or_congr_left (h.findings x))

theorem Program.covers_resolveAll (p : Program) (depth : Nat) (scope : String)
    (starts : List MethodId) :
    (p.resolveAll depth scope starts).Covers p depth scope starts := by
  induction starts using List.reverseRecOn with
  | nil => constructor <;> simp [resolveAll, ReachedFrom, Findings.not_mem_nothing]
  | append_singleton starts e ih =>
    rw [resolveAll, List.foldl_append]
    exact ih.resume e

/-- What is covered determines how far a resolution has come. -/
theorem Progress.Covers.unique {other : Progress} {others : List MethodId}
    (h : done.Covers p depth scope starts) (h' : other.Covers p depth scope others)
    (same : ∀ e, e ∈ others ↔ e ∈ starts) : other = done := by
  have visited : other.visited = done.visited := by
    refine Std.ExtTreeSet.ext_mem fun m => ?_
    rw [h.visited, h'.visited]
    simp only [Program.ReachedFrom, same]
  have findings : other.findings = done.findings := by
    refine Findings.ext_mem fun x => ?_
    rw [h.findings, h'.findings, visited]
  exact congrArg₂ Progress.mk visited findings

/-- Resolving several starts with one set of visited methods visits all that they reach, and finds
what they find one by one; neither their order nor their repetition matters. -/
theorem Program.resolveAll_eq_union (p : Program) (depth : Nat) (scope : String)
    (starts : List MethodId) :
    let shared := p.resolveAll depth scope starts
    (∀ m, m ∈ shared.visited ↔ ∃ e ∈ starts, p.Reaches e m) ∧
      shared.findings = (starts.map (p.resolve depth scope ∅ {})).foldl Findings.union {} ∧
      ∀ others, (∀ e, e ∈ others ↔ e ∈ starts) → p.resolveAll depth scope others = shared := by
  intro shared
  have covers : shared.Covers p depth scope starts := covers_resolveAll p depth scope starts
  refine ⟨covers.visited, ?_, ?_⟩
  · refine Findings.ext_mem fun x => ?_
    rw [foldl_iff Findings.union (x ∈ ·) (x ∈ ·) (fun _ _ => Findings.mem_union),
      or_iff_right (Findings.not_mem_nothing x), covers.findings]
    simp only [covers.visited, List.mem_map, exists_exists_and_eq_and, mem_resolve_afresh,
      ReachedFrom]
    constructor
    · rintro ⟨m, ⟨e, he, reached⟩, yields⟩
      exact ⟨e, he, m, reached, yields⟩
    · rintro ⟨e, he, m, reached, yields⟩
      exact ⟨m, ⟨e, he, reached⟩, yields⟩
  · intro others same
    exact covers.unique (covers_resolveAll p depth scope others) same

end Shared

open Sample in
set_option maxRecDepth 10000 in
/-- The form and the page reach each other, so the second start finds nothing new; the third one is
missing itself. -/
theorem Program.resolveAll_eq_union_ring :
    let p := ring door wall
    let starts := [method "Form" "send", method "Page" "show", method "Key" "cut"]
    let others :=
      [method "Key" "cut", method "Page" "show", method "Key" "cut", method "Form" "send"]
    let shared := p.resolveAll 4 "org.shop.web.app" starts
    (∀ e, e ∈ others ↔ e ∈ starts) ∧
      (∀ m, m ∈ shared.visited ↔ ∃ e ∈ starts, p.Reaches e m) ∧
      shared.findings =
        (starts.map (p.resolve 4 "org.shop.web.app" ∅ {})).foldl Findings.union {} ∧
      p.resolveAll 4 "org.shop.web.app" others = shared ∧
      shared.findings.pending.toList = [method "Key" "cut", method "Lock" "turn"] := by
  intro p starts others shared
  have same : ∀ e, e ∈ others ↔ e ∈ starts := by
    intro e
    simp only [starts, others, List.mem_cons, List.not_mem_nil, or_false]
    tauto
  obtain ⟨visited, union, congr⟩ := resolveAll_eq_union p 4 "org.shop.web.app" starts
  refine ⟨same, visited, union, congr others same, ?_⟩
  decide +kernel

end DataTrail
