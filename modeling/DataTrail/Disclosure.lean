import Std.Data.ExtTreeSet

/-! A disclosure is a declared hand-over of personal data to someone outside the program. -/

namespace DataTrail

/-- Data is handed to `recipient` under the policy found at `policy`. -/
structure Disclosure where
  recipient : String := ""
  policy : String := ""
deriving DecidableEq, Repr, Inhabited

namespace Disclosure

/-- Disclosures are ordered by recipient, then by policy. -/
instance : Ord Disclosure := ⟨compareLex (compareOn recipient) (compareOn policy)⟩

instance : Std.TransOrd Disclosure :=
  inferInstanceAs (Std.TransCmp (compareLex (compareOn recipient) (compareOn policy)))

instance : Std.LawfulEqOrd Disclosure where
  eq_of_compare {a b} h := by
    have h : ((compare a.recipient b.recipient).then (compare a.policy b.policy)) = .eq := h
    simp only [Ordering.then_eq_eq, Std.LawfulEqOrd.compare_eq_iff_eq] at h
    cases a
    cases b
    simp_all

end Disclosure

/-- Disclosures without repetition, in their order. -/
abbrev DisclosureSet := Std.ExtTreeSet Disclosure

end DataTrail
