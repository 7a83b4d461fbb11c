import DataTrail.MethodId
import DataTrail.Disclosure

/-! What is said about one method, and the source units that say it. Facts arrive as plain lists in
the order in which they were found; `Record.ofFacts` turns them into sets. -/

namespace DataTrail

/-- What is known about one method as soon as its source unit has been read. -/
structure Facts where
  method : MethodId
  /-- Methods it calls. -/
  callees : List MethodId := []
  /-- Categories of personal data that it handles itself. -/
  categories : List String := []
  /-- Disclosures that it declares itself. -/
  disclosures : List Disclosure := []
  /-- Whether reports start from it. -/
  entryPoint : Bool := false
  /-- Interface methods that it implements. -/
  implements : List MethodId := []
  /-- Whether it has no body. -/
  isAbstract : Bool := false
  /-- Why its body could not be read, if so. -/
  error : Option String := none
deriving DecidableEq, Repr, Inhabited

namespace Facts

/-- The facts of a method about which nothing is known. -/
def bare (method : MethodId) : Facts := { method }

/-- Adds a call. -/
def calling (f : Facts) (callee : MethodId) : Facts :=
  { f with callees := f.callees ++ [callee] }

/-- Adds a category of personal data. -/
def handling (f : Facts) (category : String) : Facts :=
  { f with categories := f.categories ++ [category] }

/-- Adds a disclosure. -/
def disclosing (f : Facts) (disclosure : Disclosure) : Facts :=
  { f with disclosures := f.disclosures ++ [disclosure] }

/-- Adds an interface method that the method implements. -/
def implementing (f : Facts) (interface : MethodId) : Facts :=
  { f with implements := f.implements ++ [interface] }

/-- Marks the method as an entry point. -/
def asEntryPoint (f : Facts) : Facts := { f with entryPoint := true }

/-- Marks the method as one without a body. -/
def asAbstract (f : Facts) : Facts := { f with isAbstract := true }

end Facts

/-- A source unit: the facts of the methods that it declares, in order. -/
structure SourceUnit where
  name : String
  methods : List Facts := []
deriving DecidableEq, Repr, Inhabited

/-- The entry points that a unit declares, each once, where it is declared first. A method without a
body counts too. -/
def SourceUnit.entryPoints (u : SourceUnit) : List MethodId :=
  ((u.methods.filter (·.entryPoint)).map (·.method)).eraseDups

end DataTrail
