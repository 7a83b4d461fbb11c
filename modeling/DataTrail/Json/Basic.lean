/-! JSON values. A string literal may name half of a surrogate pair, which no text has; such a
literal is kept as one without a text, since only a value that is used has to have one. Numbers keep
their written form. -/

namespace DataTrail

/-- What a string literal says: a text, unless one of its escapes is half of a surrogate pair. -/
abbrev Json.Literal := Option String

/-- A JSON value. The members of an object keep their order and may repeat a key. -/
inductive Json where
  | null
  | bool (value : Bool)
  | number (written : String)
  | string (literal : Json.Literal)
  | array (items : List Json)
  | object (members : List (Json.Literal × Json))
deriving Repr, Inhabited

namespace Json

/-- The string of a text. -/
def text (t : String) : Json := .string (some t)

/-- The number of a natural number. -/
def natural (n : Nat) : Json := .number (toString n)

/-- An array of texts. -/
def texts (ts : List String) : Json := .array (ts.map text)

/-- A text, or null. -/
def textOrNull : Option String → Json
  | none => .null
  | some t => text t

/-- An object with the given fields. -/
def fields (fs : List (String × Json)) : Json := .object (fs.map fun (k, v) => (some k, v))

end Json

/-- A token of JSON text. -/
inductive Json.Token where
  | openArray
  | closeArray
  | openObject
  | closeObject
  | comma
  | colon
  | null
  | bool (value : Bool)
  | number (written : String)
  | string (literal : Json.Literal)
deriving DecidableEq, Repr

end DataTrail
