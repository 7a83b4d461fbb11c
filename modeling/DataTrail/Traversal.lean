import Std.Data.ExtTreeSet

/-! Depth-first traversal of a finite graph. The nodes not yet visited are an explicit finite set
that loses a node with each visit, so cycles need no fuel. -/

namespace DataTrail

variable {α : Type} [Ord α] [Std.TransOrd α]

/-- What is left of a stack once the nodes on top of it that are not `fresh` are taken off. -/
def nextFresh (fresh : Std.ExtTreeSet α) (stack : List α) : List α :=
  stack.dropWhile (!fresh.contains ·)

theorem mem_of_nextFresh_eq_cons {fresh : Std.ExtTreeSet α} {stack rest : List α} {x : α}
    (h : nextFresh fresh stack = x :: rest) : x ∈ fresh := by
  have head := List.head?_dropWhile_not (!fresh.contains ·) stack
  rw [show stack.dropWhile (!fresh.contains ·) = x :: rest from h] at head
  simpa using head

theorem size_erase_lt {fresh : Std.ExtTreeSet α} {x : α} (h : x ∈ fresh) :
    (fresh.erase x).size < fresh.size := by
  have positive : fresh.size ≠ 0 := fun hz =>
    Std.ExtTreeSet.ne_empty_of_mem h (Std.ExtTreeSet.eq_empty_iff_size_eq_zero.mpr hz)
  rw [Std.ExtTreeSet.size_erase, if_pos (Std.ExtTreeSet.contains_iff_mem.mpr h)]
  omega

/-- The nodes of `fresh` that are reached from `stack`, in the order of their visits. The uppermost
fresh node of the stack is visited first; the nodes that follow a visited one go on top of the
stack, the last of them uppermost. -/
def explore (next : α → List α) (fresh : Std.ExtTreeSet α) (stack : List α) : List α :=
  match _top : nextFresh fresh stack with
  | [] => []
  | x :: rest => x :: explore next (fresh.erase x) ((next x).reverse ++ rest)
termination_by fresh.size
decreasing_by exact size_erase_lt (mem_of_nextFresh_eq_cons _top)

end DataTrail
