import DataTrail.MethodId
import DataTrail.Text.Quoted

/-! Notices: what an analysis says about its progress. Each has a level, a message and named values.
-/

namespace DataTrail

/-- How much a notice matters. -/
inductive Level where
  | trace
  | debug
  | info
  | warn
  | error
deriving DecidableEq, Repr

/-- The written form of a level. -/
def Level.name : Level → String
  | .trace => "TRACE"
  | .debug => "DEBUG"
  | .info => "INFO"
  | .warn => "WARN"
  | .error => "ERROR"

/-- An event of an analysis. -/
inductive Notice where
  /-- The body of a method could not be read. -/
  | extractionFailed (method : MethodId) (error : String)
  | alreadyRegistered (method : MethodId)
  /-- A missing method belongs to another namespace. -/
  | outsideNamespace (method : MethodId)
  | unitSkipped (unit : String)
  | unitRegistered (unit : String) (registered duplicates : Nat)
  | reportBlocked (report : String) (external : Nat)
  | reportDeferred (report : String) (waitingFor : Nat)
  | reportUnblocked (report : String) (method : MethodId)
  | retrying (report : String)
  | refreshing (report : String)
  /-- The analysis ends while the report still waits. -/
  | neverResolved (report : String) (missing : List MethodId)
  /-- The analysis ends while the report is blocked. -/
  | blockedOutside (report : String) (missing : List MethodId)
  | writeFailed (report : String) (error : String)
deriving DecidableEq, Repr

namespace Notice

/-- How much a notice matters. -/
def level : Notice → Level
  | outsideNamespace .. => .trace
  | alreadyRegistered .. | unitSkipped .. | unitRegistered .. => .debug
  | reportBlocked .. | reportDeferred .. | reportUnblocked .. => .debug
  | retrying .. | refreshing .. => .info
  | extractionFailed .. | neverResolved .. | blockedOutside .. => .warn
  | writeFailed .. => .error

/-- What a notice says. -/
def message : Notice → String
  | extractionFailed .. => "fact extraction failed, treating method as carrying no personal data"
  | alreadyRegistered .. => "already registered, ignoring"
  | outsideNamespace .. => "outside analysed namespace"
  | unitSkipped .. => "skipping unit"
  | unitRegistered .. => "unit registered"
  | reportBlocked .. => "report blocked on methods outside the namespace"
  | reportDeferred .. => "report deferred"
  | reportUnblocked .. => "report unblocked"
  | retrying .. => "retrying deferred report"
  | refreshing .. => "new implementation reached, rewriting report"
  | neverResolved .. => "report never resolved"
  | blockedOutside .. => "report blocked outside namespace"
  | writeFailed .. => "failed to write report"

/-- A list of methods: their written forms, each in quotes, between brackets. -/
def listed (methods : List MethodId) : String :=
  "[" ++ Text.joinWith ", " (methods.map (Text.quote ·.display)) ++ "]"

/-- The named values of a notice, in order. -/
def fields : Notice → List (String × String)
  | extractionFailed m error => [("method", m.display), ("error", error)]
  | alreadyRegistered m => [("method", m.display)]
  | outsideNamespace m => [("method", m.display)]
  | unitSkipped unit => [("unit", unit)]
  | unitRegistered unit registered duplicates =>
    [("unit", unit), ("registered", toString registered), ("duplicates", toString duplicates)]
  | reportBlocked report external => [("report", report), ("out_of_scope", toString external)]
  | reportDeferred report waitingFor => [("report", report), ("waiting_for", toString waitingFor)]
  | reportUnblocked report m => [("report", report), ("unblocked_by", m.display)]
  | retrying report => [("report", report)]
  | refreshing report => [("report", report)]
  | neverResolved report missing => [("report", report), ("missing", listed missing)]
  | blockedOutside report missing => [("report", report), ("missing", listed missing)]
  | writeFailed report error => [("report", report), ("error", error)]

end Notice

end DataTrail
