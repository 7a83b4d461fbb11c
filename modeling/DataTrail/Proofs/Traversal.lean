import DataTrail.Traversal

/-! The traversal visits exactly the fresh nodes that are reached by way of fresh nodes, each of them
once. -/

namespace DataTrail

variable {α : Type} [Ord α] [Std.TransOrd α]

/-- `y` is reached from a node of `starts` along `next`, and every node on the way is fresh. -/
inductive ReachesIn (next : α → List α) (fresh : Std.ExtTreeSet α) (starts : List α) : α → Prop
  | start {x : α} : x ∈ starts → x ∈ fresh → ReachesIn next fresh starts x
  | step {x y : α} : ReachesIn next fresh starts x → y ∈ next x → y ∈ fresh →
      ReachesIn next fresh starts y

theorem ReachesIn.mem_fresh {next : α → List α} {fresh : Std.ExtTreeSet α} {starts : List α} {y : α}
    (h : ReachesIn next fresh starts y) : y ∈ fresh := by
  cases h with
  | start _ hf => exact hf
  | step _ _ hf => exact hf

theorem mem_stack_of_mem_nextFresh {fresh : Std.ExtTreeSet α} {stack : List α} {x : α}
    (h : x ∈ nextFresh fresh stack) : x ∈ stack :=
  (List.dropWhile_sublist _).subset h

/-- Only nodes that are not fresh are taken off the stack. -/
theorem mem_nextFresh_of_fresh {fresh : Std.ExtTreeSet α} {stack : List α} {x : α}
    (hx : x ∈ stack) (hf : x ∈ fresh) : x ∈ nextFresh fresh stack := by
  induction stack with
  | nil => exact hx
  | cons y rest ih =>
    unfold nextFresh
    rw [List.dropWhile_cons]
    split
    case isTrue stale =>
      rcases List.mem_cons.mp hx with rfl | hx
      · simp [Std.ExtTreeSet.contains_iff_mem.mpr hf] at stale
      · exact ih hx
    case isFalse => exact hx

/-- A path from the stack that is left after a visit of `x` extends the path to `x`. -/
theorem ReachesIn.of_visit {next : α → List α} {fresh : Std.ExtTreeSet α} {stack rest : List α}
    {x y : α} (top : nextFresh fresh stack = x :: rest)
    (h : ReachesIn next (fresh.erase x) ((next x).reverse ++ rest) y) :
    ReachesIn next fresh stack y := by
  have hx : x ∈ fresh := mem_of_nextFresh_eq_cons top
  have onStack : ∀ z ∈ x :: rest, z ∈ stack := by
    rw [← top]
    exact fun z hz => mem_stack_of_mem_nextFresh hz
  induction h with
  | start hy hf =>
    have hf := Std.ExtTreeSet.mem_of_mem_erase hf
    rcases List.mem_append.mp hy with hy | hy
    · exact .step (.start (onStack x (by simp)) hx) (List.mem_reverse.mp hy) hf
    · exact .start (onStack _ (List.mem_cons_of_mem _ hy)) hf
  | step _ hy hf ih => exact .step ih hy (Std.ExtTreeSet.mem_of_mem_erase hf)

variable [Std.LawfulEqOrd α]

/-- A path to another node than the visited one can do without it: what follows `x` is on the stack
afterwards. -/
theorem ReachesIn.after_visit {next : α → List α} {fresh : Std.ExtTreeSet α} {stack rest : List α}
    {x y : α} (top : nextFresh fresh stack = x :: rest) (h : ReachesIn next fresh stack y)
    (hne : y ≠ x) : ReachesIn next (fresh.erase x) ((next x).reverse ++ rest) y := by
  have kept : ∀ z, z ∈ fresh → z ≠ x → z ∈ fresh.erase x := fun z hz hne =>
    Std.ExtTreeSet.mem_erase.mpr ⟨fun he => hne (Std.LawfulEqOrd.eq_of_compare he).symm, hz⟩
  induction h with
  | start hy hf =>
    have hy := top ▸ mem_nextFresh_of_fresh hy hf
    exact .start (List.mem_append_right _ ((List.mem_cons.mp hy).resolve_left hne)) (kept _ hf hne)
  | @step z y _ hy hf ih =>
    by_cases hz : z = x
    · subst hz
      exact .start (List.mem_append_left _ (List.mem_reverse.mpr hy)) (kept _ hf hne)
    · exact .step (ih hz) hy (kept _ hf hne)

theorem mem_explore_iff {next : α → List α} {fresh : Std.ExtTreeSet α} {stack : List α} {y : α} :
    y ∈ explore next fresh stack ↔ ReachesIn next fresh stack y := by
  fun_induction explore next fresh stack with
  | case1 fresh stack top =>
    -- Nothing fresh is left on the stack, so no path can start.
    constructor
    · simp
    · intro h
      induction h with
      | start hx hf => simpa [top] using mem_nextFresh_of_fresh hx hf
      | step _ _ _ ih => exact absurd ih (by simp)
  | case2 fresh stack x rest top ih =>
    rw [List.mem_cons, ih]
    constructor
    · rintro (rfl | h)
      · have hy : y ∈ nextFresh fresh stack := by simp [top]
        exact .start (mem_stack_of_mem_nextFresh hy) (mem_of_nextFresh_eq_cons top)
      · exact h.of_visit top
    · intro h
      by_cases hy : y = x
      · exact .inl hy
      · exact .inr (h.after_visit top hy)

/-- A visited node is not fresh afterwards. -/
theorem nodup_explore (next : α → List α) (fresh : Std.ExtTreeSet α) (stack : List α) :
    (explore next fresh stack).Nodup := by
  fun_induction explore next fresh stack with
  | case1 => exact List.nodup_nil
  | case2 fresh stack x rest top ih =>
    refine List.nodup_cons.mpr ⟨fun again => ?_, ih⟩
    have left : x ∈ fresh.erase x := (mem_explore_iff.mp again).mem_fresh
    exact (Std.ExtTreeSet.mem_erase.mp left).1 Std.ReflOrd.compare_self

end DataTrail
