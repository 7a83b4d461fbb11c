import DataTrail.Facts
import DataTrail.Json.Fields
import DataTrail.Json.Printer
import DataTrail.Json.Reader

/-! The JSON form of facts and source units. -/

namespace DataTrail

namespace MethodId

/-- The names of the fields, in their order. -/
def fieldNames : List String := ["owner", "method", "params"]

/-- The JSON form. -/
def toJson (m : MethodId) : Json :=
  .fields [("owner", .text m.owner), ("method", .text m.name), ("params", .texts m.params)]

/-- Reads the JSON form. -/
def ofJson? : Nat → Json → Option MethodId :=
  Json.record? fieldNames fun room fs => do
    return { owner := ← fs.required "owner" Json.text?
             name := ← fs.required "method" Json.text?
             params := ← fs.optional "params" (Json.texts? room) [] }

end MethodId

namespace Disclosure

/-- The names of the fields, in their order. -/
def fieldNames : List String := ["recipientId", "policyURL"]

/-- The JSON form. -/
def toJson (d : Disclosure) : Json :=
  .fields [("recipientId", .text d.recipient), ("policyURL", .text d.policy)]

/-- Reads the JSON form. -/
def ofJson? : Nat → Json → Option Disclosure :=
  Json.record? fieldNames fun _ fs => do
    return { recipient := ← fs.optional "recipientId" Json.text? ""
             policy := ← fs.optional "policyURL" Json.text? "" }

end Disclosure

namespace Facts

/-- The names of the fields, in their order. -/
def fieldNames : List String :=
  ["identity", "callees", "categories", "transfers", "entryPoint", "implements", "isAbstract",
    "error"]

/-- The JSON form. -/
def toJson (f : Facts) : Json :=
  .fields
    [("identity", f.method.toJson),
     ("callees", .array (f.callees.map MethodId.toJson)),
     ("categories", .texts f.categories),
     ("transfers", .array (f.disclosures.map Disclosure.toJson)),
     ("entryPoint", .bool f.entryPoint),
     ("implements", .array (f.implements.map MethodId.toJson)),
     ("isAbstract", .bool f.isAbstract),
     ("error", .textOrNull f.error)]

/-- Reads the JSON form. -/
def ofJson? : Nat → Json → Option Facts :=
  Json.record? fieldNames fun room fs => do
    return { method := ← fs.required "identity" (MethodId.ofJson? room)
             callees := ← fs.optional "callees" (Json.list? MethodId.ofJson? room) []
             categories := ← fs.optional "categories" (Json.texts? room) []
             disclosures := ← fs.optional "transfers" (Json.list? Disclosure.ofJson? room) []
             entryPoint := ← fs.optional "entryPoint" Json.bool? false
             implements := ← fs.optional "implements" (Json.list? MethodId.ofJson? room) []
             isAbstract := ← fs.optional "isAbstract" Json.bool? false
             error := ← fs.optional "error" (Json.orNull? Json.text?) none }

end Facts

namespace SourceUnit

/-- The names of the fields, in their order. -/
def fieldNames : List String := ["name", "methods"]

/-- The JSON form. -/
def toJson (u : SourceUnit) : Json :=
  .fields [("name", .text u.name), ("methods", .array (u.methods.map Facts.toJson))]

/-- Reads the JSON form. -/
def ofJson? : Nat → Json → Option SourceUnit :=
  Json.record? fieldNames fun room fs => do
    return { name := ← fs.required "name" Json.text?
             methods := ← fs.optional "methods" (Json.list? Facts.ofJson? room) [] }

/-- A unit on one line, as fact files hold it. -/
def render (u : SourceUnit) : String := u.toJson.compact

/-- Reads a unit from a text. -/
def parse? (text : String) : Option SourceUnit :=
  (Json.parse? text).bind (SourceUnit.ofJson? Json.fullRoom)

end SourceUnit

end DataTrail
