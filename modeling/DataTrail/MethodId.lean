import Std.Data.ExtTreeSet
import DataTrail.Text.Pieces

/-! Methods are told apart by the type that owns them, their name and the types of their parameters.
The leading segments of the owner's package say which namespace a method belongs to. -/

namespace DataTrail

/-- A method of the program under analysis. -/
structure MethodId where
  /-- Qualified name of the owning type. -/
  owner : String
  name : String
  /-- Parameter types, in order. -/
  params : List String := []
deriving DecidableEq, Repr, Inhabited

namespace MethodId

/-- Methods are ordered by owner, then by name, then by their parameter types. -/
instance : Ord MethodId :=
  ⟨compareLex (compareOn owner) (compareLex (compareOn name) (compareOn params))⟩

instance : Std.TransOrd MethodId :=
  inferInstanceAs (Std.TransCmp
    (compareLex (compareOn owner) (compareLex (compareOn name) (compareOn params))))

instance : Std.LawfulEqOrd MethodId where
  eq_of_compare {a b} h := by
    have h : ((compare a.owner b.owner).then
        ((compare a.name b.name).then (compare a.params b.params))) = .eq := h
    simp only [Ordering.then_eq_eq, Std.LawfulEqOrd.compare_eq_iff_eq] at h
    cases a
    cases b
    simp_all

/-- The written form `owner#name(first, second)`. -/
def display (m : MethodId) : String :=
  m.owner ++ "#" ++ m.name ++ "(" ++ Text.joinWith ", " m.params ++ ")"

/-- The package of the owner: its name without the last segment. -/
def package (m : MethodId) : String := Text.beforeLast '.' m.owner

end MethodId

/-- The segments of a package, without the empty ones that stray dots leave. -/
def packageSegments (package : String) : List String :=
  (Text.pieces '.' package).filter (· ≠ "")

/-- The namespace of a package: its first `depth` segments. -/
def namespaceOf (package : String) (depth : Nat) : String :=
  Text.joinWith "." ((packageSegments package).take depth)

/-- The namespace of a method, read off the package of its owner. -/
def MethodId.namespaceAt (m : MethodId) (depth : Nat) : String :=
  namespaceOf m.package depth

/-- Methods without repetition, in their order. -/
abbrev MethodSet := Std.ExtTreeSet MethodId

/-- Names without repetition, in their order. -/
abbrev NameSet := Std.ExtTreeSet String

end DataTrail
