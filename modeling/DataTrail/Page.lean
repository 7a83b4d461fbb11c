import DataTrail.Page.Fragment
import DataTrail.Page.Lane
import DataTrail.Text.Pieces

/-! The HTML page that shows reports: their purposes, their data, the recipients of the data, and
how the reports are composed of purposes. -/

namespace DataTrail.Page

open Fragment

/-- What a lane shows of a report or of a purpose. -/
structure Card where
  name : String
  description : String
  optOut : Bool
  required : Bool
  retention : Option String
  pm : Option String
  data : List String
  disclosures : List Disclosure

/-- What a lane shows of a report. -/
def Card.ofReport (r : Report) : Card :=
  { name := r.name, description := r.description, optOut := r.optOut, required := r.required
    retention := r.retention, pm := r.pm, data := r.data, disclosures := r.disclosures }

/-- What a lane shows of a purpose. -/
def Card.ofPurpose (p : Purpose) : Card :=
  { name := p.name, description := p.description, optOut := p.optOut, required := p.required
    retention := p.retention, pm := p.pm, data := p.data, disclosures := p.disclosures }

/-- The last part of a dotted name. -/
def lastPart (name : String) : String := Text.afterLast '.' name

/-- A method or unit name without its package and its parameters. -/
def shortName (name : String) : String := lastPart (Text.beforeFirst '(' name)

/-- One row of a card: a key and a value. -/
def row (key : String) (value : List Fragment) : List Fragment :=
  [markup ("<tr><td class=\"key\"><em>" ++ key ++ ":</em></td><td>")] ++ value ++
    [markup "</td></tr>"]

/-- The label and the name in the head of a table. -/
def heading (label name : String) : List Fragment :=
  [markup "<tr><th colspan=\"2\"><span>", text label, markup ":</span><span> ", text name,
    markup "</span></th></tr>"]

/-- The text of a truth value. -/
def truth (b : Bool) : String := if b then "true" else "false"

/-- A card with its label. -/
def card (label : String) (c : Card) (lastRow : List Fragment) : List Fragment :=
  [markup "<table class=\"lane-item\">"] ++
  heading label (shortName c.name) ++
  row "desc" [text (if c.description = "" then "\"\"" else c.description)] ++
  row "optOut" [text (truth c.optOut)] ++
  row "required" [text (truth c.required)] ++
  row "retention" [text (c.retention.getD "(AfterPurpose, 0)")] ++
  row "pm" [text (c.pm.getD "null")] ++
  row "D" [text ("[" ++ Text.joinWith ", " (c.data.map lastPart) ++ "]")] ++
  row "DR" [text ("[" ++ Text.joinWith ", " (c.disclosures.map (·.recipient)) ++ "]")] ++
  lastRow ++
  [markup "</table>"]

/-- The label of a report. -/
def parentLabel (number : Nat) : String := "p" ++ toString number

/-- The label of a purpose within a report. -/
def childLabel (number : Nat) : String := "p" ++ toString number ++ "'"

/-- The card of a report. -/
def parentCard (l : Lane) : List Fragment :=
  card (parentLabel l.number) (.ofReport l.report)
    (row "p'" [text (toString l.children.length)])

/-- The card of a purpose within a report. -/
def childCard (child : Nat × Purpose) : List Fragment :=
  card (childLabel child.1) (.ofPurpose child.2) []

/-- An item of the data lane. -/
def dataItem (item : Nat × String) : List Fragment :=
  [markup "<table class=\"lane-item\">"] ++
  heading ("d" ++ toString item.1) (lastPart item.2) ++
  [markup "</table>"]

/-- An item of the lane of recipients. -/
def recipientItem (item : Nat × Disclosure) : List Fragment :=
  [markup "<table class=\"lane-item\">"] ++
  heading ("dr" ++ toString item.1) item.2.recipient ++
  row "policyURL" [text item.2.policy] ++
  [markup "</table>"]

/-- A purpose below the report that it is part of. -/
def composedChild (child : Nat × Purpose) : List Fragment :=
  [markup ("<div class=\"cp-container\"><div><div class=\"cp-arrow-top\"></div>" ++
    "<div class=\"cp-arrow-bottom\"></div></div>" ++
    "<table class=\"composed-purpose lane-item\">")] ++
  heading (childLabel child.1) ("#" ++ Text.afterLast '#' (shortName child.2.name)) ++
  [markup "</table></div>"]

/-- A report and the purposes that it is composed of. -/
def composed (l : Lane) : List Fragment :=
  [markup "<div><table class=\"lane-item composed-parent\">"] ++
  heading (parentLabel l.number) (shortName l.report.name) ++
  [markup "</table><div class=\"diamond\"></div><div>"] ++
  l.children.flatMap composedChild ++
  [markup "</div></div>"]

/-- The pieces of the page with the given title. -/
def fragments (title : String) (reports : List Report) : List Fragment :=
  let ls := lanes reports
  [markup ("<html><head>\n<link rel=\"stylesheet\" href=\"styles.css\"><meta charset=\"utf-8\">" ++
    "</head>\n<body>\n<main><h1>Purpose data for "),
   text title,
   markup "</h1><div class=\"lanes\"><section class=\"lane\"><h2>Purposes</h2>"] ++
  ls.flatMap parentCard ++
  (ls.flatMap (·.children)).flatMap childCard ++
  [markup "</section><section class=\"lane no-shrink\"><h2>Data</h2>"] ++
  (numberFrom 1 (shownData ls)).flatMap dataItem ++
  [markup "</section><section class=\"lane\"><h2>DataRecipients</h2>"] ++
  (numberFrom 1 (shownDisclosures ls)).flatMap recipientItem ++
  [markup "</section></div><section><h2>Composed Purposes</h2>"] ++
  ls.flatMap composed ++
  [markup "</section></main></body></html>"]

/-- The page with the given title. -/
def ofReports (title : String) (reports : List Report) : String :=
  render (fragments title reports)

end DataTrail.Page
