import DataTrail.Json.Literal

/-! Writing JSON values, on one line without blanks or on indented lines. -/

namespace DataTrail.Json

mutual

/-- A value on one line, without blanks. -/
def compact : Json → String
  | .null => "null"
  | .bool b => if b then "true" else "false"
  | .number n => n
  | .string l => l.render
  | .array items => "[" ++ compactItems items ++ "]"
  | .object members => "\x7b" ++ compactMembers members ++ "\x7d"

/-- The items of an array, with commas between them. -/
def compactItems : List Json → String
  | [] => ""
  | [v] => compact v
  | v :: rest => compact v ++ "," ++ compactItems rest

/-- The members of an object, with commas between them. -/
def compactMembers : List (Literal × Json) → String
  | [] => ""
  | [(k, v)] => k.render ++ ":" ++ compact v
  | (k, v) :: rest => k.render ++ ":" ++ compact v ++ "," ++ compactMembers rest

end

/-- The start of an indented line. -/
def indent (level : Nat) : String := String.ofList (List.replicate (2 * level) ' ')

mutual

/-- A value on lines of its own; what it holds is indented by two blanks more than `level` says. -/
def pretty (level : Nat) : Json → String
  | .null => "null"
  | .bool b => if b then "true" else "false"
  | .number n => n
  | .string l => l.render
  | .array [] => "[]"
  | .array items => "[\n" ++ prettyItems (level + 1) items ++ "\n" ++ indent level ++ "]"
  | .object [] => "\x7b\x7d"
  | .object members =>
    "\x7b\n" ++ prettyMembers (level + 1) members ++ "\n" ++ indent level ++ "\x7d"

/-- The items of an array, one on each line. -/
def prettyItems (level : Nat) : List Json → String
  | [] => ""
  | [v] => indent level ++ pretty level v
  | v :: rest => indent level ++ pretty level v ++ ",\n" ++ prettyItems level rest

/-- The members of an object, one on each line. -/
def prettyMembers (level : Nat) : List (Literal × Json) → String
  | [] => ""
  | [(k, v)] => indent level ++ k.render ++ ": " ++ pretty level v
  | (k, v) :: rest =>
    indent level ++ k.render ++ ": " ++ pretty level v ++ ",\n" ++ prettyMembers level rest

end

end DataTrail.Json
