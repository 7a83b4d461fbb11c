import DataTrail.Facts.Form
import DataTrail.Report

/-! The JSON form of reports. -/

namespace DataTrail

namespace Purpose

/-- The names of the fields, in their order. -/
def fieldNames : List String :=
  ["name", "optOut", "required", "retention", "description", "pm", "purposes", "data", "transfers"]

mutual

/-- The JSON form. -/
def toJson : Purpose → Json
  | { name, optOut, required, retention, description, pm, purposes, data, disclosures } =>
    .fields
      [("name", .text name),
       ("optOut", .bool optOut),
       ("required", .bool required),
       ("retention", .textOrNull retention),
       ("description", .text description),
       ("pm", .textOrNull pm),
       ("purposes", .array (toJsons purposes)),
       ("data", .texts data),
       ("transfers", .array (disclosures.map Disclosure.toJson))]

/-- The JSON forms of purposes. -/
def toJsons : List Purpose → List Json
  | [] => []
  | p :: rest => toJson p :: toJsons rest

end

/-- Reads a purpose. Each purpose within it takes two levels of the room: the list and the record.
-/
def ofJson? : Nat → Json → Option Purpose
  | 0, _ => none
  | room + 1, j => do
    let fs ← j.fields? fieldNames
    let inner : Json → Option (List Purpose) :=
      match room with
      | 0 => fun _ => none
      | room + 1 => fun j => j.items?.bind (·.mapM (ofJson? room))
    return { name := ← fs.required "name" Json.text?
             optOut := ← fs.optional "optOut" Json.bool? false
             required := ← fs.optional "required" Json.bool? true
             retention := ← fs.optional "retention" (Json.orNull? Json.text?) none
             description := ← fs.optional "description" Json.text? ""
             pm := ← fs.optional "pm" (Json.orNull? Json.text?) none
             purposes := ← fs.optional "purposes" inner []
             data := ← fs.optional "data" (Json.texts? room) []
             disclosures := ← fs.optional "transfers" (Json.list? Disclosure.ofJson? room) [] }

end Purpose

namespace Report

/-- The names of the fields, in their order. -/
def fieldNames : List String :=
  ["name", "optOut", "required", "retention", "pm", "description", "purposes", "data", "transfers"]

/-- The JSON form. -/
def toJson (r : Report) : Json :=
  .fields
    [("name", .text r.name),
     ("optOut", .bool r.optOut),
     ("required", .bool r.required),
     ("retention", .textOrNull r.retention),
     ("pm", .textOrNull r.pm),
     ("description", .text r.description),
     ("purposes", .array (r.purposes.map Purpose.toJson)),
     ("data", .texts r.data),
     ("transfers", .array (r.disclosures.map Disclosure.toJson))]

/-- Reads the JSON form. -/
def ofJson? : Nat → Json → Option Report :=
  Json.record? fieldNames fun room fs => do
    return { name := ← fs.required "name" Json.text?
             optOut := ← fs.optional "optOut" Json.bool? false
             required := ← fs.optional "required" Json.bool? true
             retention := ← fs.optional "retention" (Json.orNull? Json.text?) none
             pm := ← fs.optional "pm" (Json.orNull? Json.text?) none
             description := ← fs.optional "description" Json.text? ""
             purposes := ← fs.optional "purposes" (Json.list? Purpose.ofJson? room) []
             data := ← fs.optional "data" (Json.texts? room) []
             disclosures := ← fs.optional "transfers" (Json.list? Disclosure.ofJson? room) [] }

/-- A report on indented lines, as report files hold it. -/
def render (r : Report) : String := r.toJson.pretty 0

/-- Reads a report from a text. -/
def parse? (text : String) : Option Report :=
  (Json.parse? text).bind (Report.ofJson? Json.fullRoom)

end Report

end DataTrail
