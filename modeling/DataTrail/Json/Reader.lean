import DataTrail.Json.Lexer

/-! Building JSON values from tokens. The reader is a machine that takes one token at a time and
keeps the arrays and objects it is inside of on a stack, so values may nest to any depth. -/

namespace DataTrail.Json

/-- An array or object whose next value is awaited, with what it holds already, last first. -/
inductive Frame where
  | element (before : List Json)
  | member (before : List (Literal × Json)) (key : Literal)

/-- What the reader has seen and what it waits for. -/
inductive State where
  /-- A value must follow. -/
  | value (stack : List Frame)
  /-- An array was opened. -/
  | arrayOpened (stack : List Frame)
  /-- An object was opened. -/
  | objectOpened (stack : List Frame)
  /-- A key must follow. -/
  | key (before : List (Literal × Json)) (stack : List Frame)
  /-- A colon must follow. -/
  | colon (before : List (Literal × Json)) (key : Literal) (stack : List Frame)
  /-- An element is complete. -/
  | afterElement (items : List Json) (stack : List Frame)
  /-- A member is complete. -/
  | afterMember (members : List (Literal × Json)) (stack : List Frame)
  /-- The whole value is complete. -/
  | complete (value : Json)

/-- Puts a complete value where it was awaited. -/
def fill (v : Json) : List Frame → State
  | [] => .complete v
  | .element before :: stack => .afterElement (v :: before) stack
  | .member before key :: stack => .afterMember ((key, v) :: before) stack

/-- Takes a token that starts a value. -/
def begin? (stack : List Frame) : Token → Option State
  | .null => some (fill .null stack)
  | .bool b => some (fill (.bool b) stack)
  | .number n => some (fill (.number n) stack)
  | .string l => some (fill (.string l) stack)
  | .openArray => some (.arrayOpened stack)
  | .openObject => some (.objectOpened stack)
  | _ => none

/-- Takes one token. -/
def step? : State → Token → Option State
  | .value stack, t => begin? stack t
  | .arrayOpened stack, .closeArray => some (fill (.array []) stack)
  | .arrayOpened stack, t => begin? (.element [] :: stack) t
  | .objectOpened stack, .closeObject => some (fill (.object []) stack)
  | .objectOpened stack, .string k => some (.colon [] k stack)
  | .key before stack, .string k => some (.colon before k stack)
  | .colon before k stack, .colon => some (.value (.member before k :: stack))
  | .afterElement items stack, .comma => some (.value (.element items :: stack))
  | .afterElement items stack, .closeArray => some (fill (.array items.reverse) stack)
  | .afterMember members stack, .comma => some (.key members stack)
  | .afterMember members stack, .closeObject => some (fill (.object members.reverse) stack)
  | _, _ => none

/-- The value that a list of tokens spells. -/
def ofTokens? (ts : List Token) : Option Json :=
  match ts.foldlM step? (.value []) with
  | some (.complete v) => some v
  | _ => none

/-- The value that a text spells. -/
def parse? (text : String) : Option Json := (Token.scan? text.toList).bind ofTokens?

end DataTrail.Json
