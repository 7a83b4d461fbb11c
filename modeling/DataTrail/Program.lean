import DataTrail.Registry
import DataTrail.Dispatch

/-! The part of the analysed program that is known so far: the registered methods and the dispatch
table. Control passes from a method to the callees of the records that a call of it may run. -/

namespace DataTrail

/-- What is known of the program under analysis. -/
structure Program where
  registry : Registry := .empty
  dispatch : Dispatch := .empty

namespace Program

/-- The records that a call of `m` may run: those of its registered implementors if it has
implementors, otherwise its own. -/
def recordsOf (p : Program) (m : MethodId) : List Record :=
  match p.dispatch.implementors m with
  | [] => (p.registry.find? m).toList
  | implementors => implementors.filterMap p.registry.find?

/-- The methods that a call of `m` may call next. -/
def calleesOf (p : Program) (m : MethodId) : List MethodId :=
  (p.recordsOf m).flatMap (·.callees.toList)

/-- Whether nothing says what a call of `m` runs. -/
def isMissing (p : Program) (m : MethodId) : Bool :=
  !p.registry.contains m && !p.dispatch.isImplemented m

/-- All methods that some registered method calls. -/
def called (p : Program) : MethodSet :=
  .ofList (p.registry.toList.flatMap (·.2.callees.toList))

/-- Registers a method and, the first time, adds it to the implementors of its interfaces. -/
def register (p : Program) (f : Facts) : Program :=
  if p.registry.contains f.method then p
  else
    { registry := p.registry.register f.method (.ofFacts f)
      dispatch := f.implements.foldl (fun d interface => d.add interface f.method) p.dispatch }

/-- Control may pass from `m` to `n`, in any number of calls. -/
inductive Reaches (p : Program) (m : MethodId) : MethodId → Prop where
  | refl : Reaches p m m
  | call {n k : MethodId} : Reaches p m n → k ∈ p.calleesOf n → Reaches p m k

end Program

end DataTrail
