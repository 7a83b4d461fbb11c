import DataTrail.Json.Fields
import DataTrail.Settings

/-! The JSON form of settings. -/

namespace DataTrail.Settings

/-- The names of the fields, in their order. -/
def fieldNames : List String :=
  ["output_dir", "namespace_depth", "skip_unit_suffixes", "emit_partial_on_finish"]

/-- The JSON form. -/
def toJson (s : Settings) : Json :=
  .fields
    [("output_dir", .text s.outputDir),
     ("namespace_depth", .natural s.namespaceDepth),
     ("skip_unit_suffixes", .texts s.skipUnitSuffixes),
     ("emit_partial_on_finish", .bool s.emitPartialOnFinish)]

/-- Reads settings; each missing field has its default. -/
def ofJson? : Nat → Json → Option Settings :=
  let default : Settings := {}
  Json.record? fieldNames fun room fs => do
    return { outputDir := ← fs.optional "output_dir" Json.text? default.outputDir
             namespaceDepth := ← fs.optional "namespace_depth" Json.natural? default.namespaceDepth
             skipUnitSuffixes :=
               ← fs.optional "skip_unit_suffixes" (Json.texts? room) default.skipUnitSuffixes
             emitPartialOnFinish :=
               ← fs.optional "emit_partial_on_finish" Json.bool? default.emitPartialOnFinish }

end DataTrail.Settings
