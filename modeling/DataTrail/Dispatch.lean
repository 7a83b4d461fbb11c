import Std.Data.ExtTreeMap
import DataTrail.MethodId

/-! The dispatch table says which methods may run when an interface method is called. It only grows.
-/

namespace DataTrail

/-- For each implemented interface method its implementors, in the order in which they were found.
-/
structure Dispatch where
  table : Std.ExtTreeMap MethodId (List MethodId) := ∅

namespace Dispatch

/-- The table of a new analysis. -/
def empty : Dispatch := {}

/-- The implementors of an interface method, in the order in which they were found. -/
def implementors (d : Dispatch) (interface : MethodId) : List MethodId :=
  d.table.getD interface []

/-- Whether a method has implementors. -/
def isImplemented (d : Dispatch) (interface : MethodId) : Bool :=
  !(d.implementors interface).isEmpty

/-- Whether `m` is known to implement `interface`. -/
def lists (d : Dispatch) (interface m : MethodId) : Bool :=
  (d.implementors interface).contains m

/-- Adds `m` as the last implementor of `interface`, unless it is known. -/
def add (d : Dispatch) (interface m : MethodId) : Dispatch :=
  if d.lists interface m then d
  else ⟨d.table.insert interface (d.implementors interface ++ [m])⟩

/-- The number of implemented interface methods. -/
def size (d : Dispatch) : Nat := d.table.size

/-- The implemented interface methods with their implementors, in the order of the former. -/
def toList (d : Dispatch) : List (MethodId × List MethodId) := d.table.toList

/-- An empty table lists no implementors. -/
@[simp]
theorem implementors_empty (interface : MethodId) : empty.implementors interface = [] := by
  simp [empty, implementors]

end Dispatch

end DataTrail
