import DataTrail.Program
import DataTrail.Traversal

/-! What an entry point reaches: the personal data of every method that may run, the interface
methods that were passed through, and the methods about which nothing is known. A missing method of
the entry point's own namespace may still arrive; any other is external. -/

namespace DataTrail

/-- The personal data and the open ends of a part of the program. -/
structure Findings where
  categories : NameSet := ∅
  disclosures : DisclosureSet := ∅
  /-- Missing methods of the namespace, which a later unit may supply. -/
  pending : MethodSet := ∅
  /-- Missing methods of other namespaces, which are never waited for. -/
  external : MethodSet := ∅
  /-- Methods that were passed through to their implementors. -/
  interfaces : MethodSet := ∅
deriving DecidableEq

namespace Findings

/-- Nothing is missing. -/
def isComplete (f : Findings) : Bool := f.pending.isEmpty && f.external.isEmpty

/-- No personal data was found. -/
def carriesNothing (f : Findings) : Bool := f.categories.isEmpty && f.disclosures.isEmpty

/-- The findings of both parts. -/
def union (f g : Findings) : Findings where
  categories := f.categories ∪ g.categories
  disclosures := f.disclosures ∪ g.disclosures
  pending := f.pending ∪ g.pending
  external := f.external ∪ g.external
  interfaces := f.interfaces ∪ g.interfaces

/-- Adds the data that a record holds itself. -/
def absorb (f : Findings) (r : Record) : Findings :=
  { f with
    categories := f.categories ∪ r.categories
    disclosures := f.disclosures ∪ r.disclosures }

end Findings

/-- How far a resolution from several starts has come. -/
structure Progress where
  visited : MethodSet := ∅
  findings : Findings := {}
deriving DecidableEq

/-- How a missing method is treated. -/
inductive Missing where
  /-- It belongs to the program under analysis and may be registered later. -/
  | pending
  /-- It is code of others. -/
  | external
deriving DecidableEq, Repr

/-- Code of the namespace that is still missing may arrive, all other code never does. -/
def classify (depth : Nat) (scope : String) (m : MethodId) : Missing :=
  if m.namespaceAt depth = scope then .pending else .external

namespace Program

/-- Adds to `f` what a visit of `m` finds, for an entry point whose namespace is `scope`. -/
def observe (p : Program) (depth : Nat) (scope : String) (f : Findings) (m : MethodId) : Findings :=
  let f := (p.recordsOf m).foldl Findings.absorb f
  if p.dispatch.isImplemented m then { f with interfaces := f.interfaces.insert m }
  else if p.registry.contains m then f
  else
    match classify depth scope m with
    | .pending => { f with pending := f.pending.insert m }
    | .external => { f with external := f.external.insert m }

/-- The methods that control reaches from `start` without entering `visited`, in the order of their
visits. -/
def visits (p : Program) (visited : MethodSet) (start : MethodId) : List MethodId :=
  explore p.calleesOf ((p.called.insert start) \ visited) [start]

/-- Adds to `f` all that is reached from `start` and not yet in `visited`; `scope` is the namespace
against which missing methods are judged. -/
def resolve (p : Program) (depth : Nat) (scope : String) (visited : MethodSet) (f : Findings)
    (start : MethodId) : Findings :=
  (p.visits visited start).foldl (p.observe depth scope) f

/-- What the entry point `entry` reaches. -/
def resolveEntry (p : Program) (depth : Nat) (entry : MethodId) : Findings :=
  p.resolve depth (entry.namespaceAt depth) ∅ {} entry

/-- Goes on from `start`, without entering again what is visited. -/
def resume (p : Program) (depth : Nat) (scope : String) (done : Progress) (start : MethodId) :
    Progress where
  visited := done.visited.insertMany (p.visits done.visited start)
  findings := p.resolve depth scope done.visited done.findings start

/-- Resolves the starts one after the other, and enters no method twice. -/
def resolveAll (p : Program) (depth : Nat) (scope : String) (starts : List MethodId) : Progress :=
  starts.foldl (p.resume depth scope) {}

/-- The external methods that the entry point `entry` reaches, in the order of their visits. -/
def externalVisits (p : Program) (depth : Nat) (entry : MethodId) : List MethodId :=
  (p.visits ∅ entry).filter fun m =>
    p.isMissing m && classify depth (entry.namespaceAt depth) m = .external

end Program

end DataTrail
