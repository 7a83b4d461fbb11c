import DataTrail.Report

/-! What a page shows of a list of reports. Reports without data are left out, and so are purposes
without data; the rest is numbered, first the reports and then the purposes, report by report. -/

namespace DataTrail.Page

/-- A report that is shown, with the purposes of it that are shown, and their numbers. -/
structure Lane where
  number : Nat
  report : Report
  children : List (Nat × Purpose)
deriving Inhabited

/-- The reports that are shown. -/
def shownReports (reports : List Report) : List Report := reports.filter (!·.data.isEmpty)

/-- The purposes of a report that are shown. -/
def shownPurposes (r : Report) : List Purpose := r.purposes.filter (!·.data.isEmpty)

/-- Numbers a list from `start` on. -/
def numberFrom (start : Nat) (xs : List α) : List (Nat × α) := xs.zipIdx start |>.map Prod.swap

/-- The lanes of numbered reports, whose purposes are numbered from `next` on. -/
def lanesFrom (next : Nat) : List (Nat × Report) → List Lane
  | [] => []
  | (number, report) :: rest =>
    let children := shownPurposes report
    { number, report, children := numberFrom next children } ::
      lanesFrom (next + children.length) rest

/-- The lanes of a page. -/
def lanes (reports : List Report) : List Lane :=
  let shown := shownReports reports
  lanesFrom (shown.length + 1) (numberFrom 1 shown)

/-- All data of the shown reports, in order and without repetition. -/
def shownData (lanes : List Lane) : List String :=
  (Std.ExtTreeSet.ofList (lanes.flatMap (·.report.data)) : NameSet).toList

/-- All disclosures of the shown reports, each once and in the order of the recipients. Disclosures
to the same recipient stay in the order in which they occur. -/
def shownDisclosures (lanes : List Lane) : List Disclosure :=
  (lanes.flatMap (·.report.disclosures)).eraseDups.mergeSort
    fun a b => decide (a.recipient ≤ b.recipient)

end DataTrail.Page
