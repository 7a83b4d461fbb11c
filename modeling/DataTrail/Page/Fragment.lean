/-! Pieces of an HTML page. What comes from a report enters a page only as text, and text is
escaped. -/

namespace DataTrail.Page

/-- A piece of a page: markup, which is part of the page's frame, or text, which can hold anything.
-/
inductive Fragment where
  | markup (source : String)
  | text (content : String)
deriving DecidableEq, Repr

/-- A character of a text as it is written into a page. -/
def escapeChar : Char → List Char
  | '&' => ['&', 'a', 'm', 'p', ';']
  | '<' => ['&', 'l', 't', ';']
  | '>' => ['&', 'g', 't', ';']
  | '"' => ['&', 'q', 'u', 'o', 't', ';']
  | c => [c]

/-- A text as it is written into a page. -/
def escape (text : String) : String := String.ofList (text.toList.flatMap escapeChar)

/-- A piece as it stands in the page. -/
def Fragment.render : Fragment → String
  | .markup source => source
  | .text content => escape content

/-- The text of a page. -/
def render (fragments : List Fragment) : String := String.join (fragments.map Fragment.render)

end DataTrail.Page
