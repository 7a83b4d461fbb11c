import Std.Data.ExtTreeMap
import DataTrail.Facts

/-! The registry holds one record per method for the length of an analysis. The first registration
of a method stands; later ones change nothing. -/

namespace DataTrail

/-- What the analysis keeps of a method. -/
structure Record where
  callees : MethodSet := ∅
  categories : NameSet := ∅
  disclosures : DisclosureSet := ∅
  implements : MethodSet := ∅
deriving DecidableEq

/-- The record of a method. A method whose body could not be read counts as handling no personal
data, while its calls and interfaces are kept. -/
def Record.ofFacts (f : Facts) : Record where
  callees := .ofList f.callees
  categories := if f.error.isSome then ∅ else .ofList f.categories
  disclosures := if f.error.isSome then ∅ else .ofList f.disclosures
  implements := .ofList f.implements

/-- The records of the registered methods. -/
structure Registry where
  records : Std.ExtTreeMap MethodId Record := ∅

namespace Registry

/-- The registry of a new analysis. -/
def empty : Registry := {}

/-- The record of a registered method. -/
def find? (r : Registry) (m : MethodId) : Option Record := r.records[m]?

/-- Whether a method is registered. -/
def contains (r : Registry) (m : MethodId) : Bool := r.records.contains m

/-- The number of registered methods. -/
def size (r : Registry) : Nat := r.records.size

/-- The registered methods with their records, in the order of the methods. -/
def toList (r : Registry) : List (MethodId × Record) := r.records.toList

/-- Registers a method, unless it is registered already. -/
def register (r : Registry) (m : MethodId) (record : Record) : Registry :=
  ⟨r.records.insertIfNew m record⟩

/-- An empty registry finds nothing. -/
@[simp]
theorem find?_empty (m : MethodId) : empty.find? m = none := by
  simp [empty, find?]

/-- A registry contains what it finds. -/
theorem contains_eq_isSome_find? (r : Registry) (m : MethodId) :
    r.contains m = (r.find? m).isSome :=
  Std.ExtTreeMap.contains_eq_isSome_getElem?

end Registry

end DataTrail
