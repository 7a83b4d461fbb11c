import DataTrail.MethodId
import DataTrail.Disclosure

/-! Reports: for each source unit with entry points one report, with one purpose per entry point.
The lists of data and disclosures that the analysis fills in are sorted and free of repetition, so
the same facts give the same text. -/

namespace DataTrail

/-- What personal data serves one purpose. The analysis writes one for each entry point. -/
structure Purpose where
  name : String
  /-- Whether people may opt out of it. -/
  optOut : Bool := false
  required : Bool := true
  /-- How long data is kept, if stated. -/
  retention : Option String := none
  description : String := ""
  /-- Who manages the purpose, if stated. -/
  pm : Option String := none
  /-- The purposes that this one is composed of. -/
  purposes : List Purpose := []
  /-- Categories of personal data. -/
  data : List String := []
  disclosures : List Disclosure := []
deriving Repr, Inhabited

/-- The purpose of the entry point `name`, with its data and disclosures in order and without
repetition. -/
def Purpose.ofData (name : String) (data : NameSet) (disclosures : DisclosureSet) : Purpose :=
  { name, data := data.toList, disclosures := disclosures.toList }

/-- The report of one source unit. -/
structure Report where
  name : String
  /-- Whether people may opt out. -/
  optOut : Bool := false
  required : Bool := true
  /-- How long data is kept, if stated. -/
  retention : Option String := none
  /-- Who manages the purposes, if stated. -/
  pm : Option String := none
  description : String := ""
  /-- One purpose for each entry point, in order. -/
  purposes : List Purpose := []
  /-- Categories of personal data, of all purposes together. -/
  data : List String := []
  disclosures : List Disclosure := []
deriving Repr, Inhabited

namespace Report

/-- The report that joins the data and the disclosures of its purposes. -/
def ofPurposes (name : String) (purposes : List Purpose) : Report :=
  { name
    purposes
    data := (Std.ExtTreeSet.ofList (purposes.flatMap (·.data)) : NameSet).toList
    disclosures :=
      (Std.ExtTreeSet.ofList (purposes.flatMap (·.disclosures)) : DisclosureSet).toList }

/-- The last of the reports that has the given name. -/
def latest? (reports : List Report) (name : String) : Option Report :=
  reports.reverse.find? (·.name = name)

end Report

end DataTrail
