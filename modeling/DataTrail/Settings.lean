/-! The settings of an analysis. -/

namespace DataTrail

/-- What an analysis can be told. -/
structure Settings where
  /-- The directory that receives one file for each report. -/
  outputDir : String := "pdtree"
  /-- How many leading package segments make up a namespace. -/
  namespaceDepth : Nat := 4
  /-- Units whose name ends in one of these are left out. -/
  skipUnitSuffixes : List String := ["Test"]
  /-- Whether reports that never became complete are written in the end as far as they go. -/
  emitPartialOnFinish : Bool := false
deriving DecidableEq, Repr, Inhabited

namespace Settings

/-- Whether a unit is left out, as tests are. An empty suffix leaves nothing out. -/
def skipsUnit (s : Settings) (unitName : String) : Bool :=
  s.skipUnitSuffixes.any fun ending => ending ≠ "" && ending.toList.isSuffixOf unitName.toList

/-- A value that no analysis can work with. -/
inductive Invalid where
  | namespaceDepth
  | outputDir
deriving DecidableEq, Repr

/-- What is wrong, in words. -/
def Invalid.message : Invalid → String
  | .namespaceDepth => "Invalid value for namespace_depth: must be at least 1"
  | .outputDir => "Invalid value for output_dir: must not be empty"

/-- Checks the depth first, then the output directory. -/
def validate (s : Settings) : Except Invalid Unit :=
  if s.namespaceDepth = 0 then .error .namespaceDepth
  else if s.outputDir = "" then .error .outputDir
  else .ok ()

end Settings

end DataTrail
