import DataTrail.Toml.Moment
import DataTrail.Toml.Number
import DataTrail.Toml.Text

/-! Reading TOML documents. -/

namespace DataTrail.Toml

/-- How deep arrays and tables in braces may nest, and how many parts a key may have. -/
def depthLimit : Nat := 79

/-- The characters of a key without quotes. -/
def isBare (c : Char) : Bool :=
  c.isAlphanum || c = '_' || c = '-'

/-- One part of a key. -/
def keyPart? (cs : List Char) : Option (String × List Char) :=
  match shortString? cs with
  | some found => some found
  | none =>
    match cs.takeWhile isBare with
    | [] => none
    | bare => some (String.ofList bare, cs.dropWhile isBare)

/-- The parts of a key, at most `room` of them, with dots between them and blanks around them. -/
def keyParts? : Nat → List Char → Option (List String × List Char)
  | 0, _ => none
  | room + 1, cs => do
    let (part, cs) ← keyPart? (skipBlanks cs)
    match skipBlanks cs with
    | '.' :: cs =>
      let (parts, cs) ← keyParts? room cs
      return (part :: parts, cs)
    | cs => return ([part], cs)

/-- A key. -/
def key? (cs : List Char) : Option (Key × List Char) := do
  let (parts, cs) ← keyParts? depthLimit cs
  match parts.getLast? with
  | some last => return (⟨parts.dropLast, last⟩, cs)
  | none => none

/-- The items of an array up to the closing bracket, each read by `item`. Every item takes at least
one character, so `limit` may be the length of the text. -/
def items? (item : List Char → Option (Toml × List Char)) (read : List Toml) :
    Nat → List Char → Option (List Toml × List Char)
  | 0, _ => none
  | limit + 1, cs => do
    match ← skipLines? false cs with
    | ']' :: cs => return (read.reverse, cs)
    | cs =>
      let (value, cs) ← item cs
      match ← skipLines? false cs with
      | ',' :: cs => items? item (value :: read) limit cs
      | ']' :: cs => return ((value :: read).reverse, cs)
      | _ => none

/-- A key, an equals sign and a value. -/
def pair? (value : List Char → Option (Toml × List Char)) (cs : List Char) :
    Option ((Key × Toml) × List Char) := do
  let (key, cs) ← key? cs
  match cs with
  | '=' :: cs =>
    let (value, cs) ← value (skipBlanks cs)
    return ((key, value), cs)
  | _ => none

/-- The pairs of a table in braces up to the closing brace. -/
def pairs? (value : List Char → Option (Toml × List Char)) (read : List (Key × Toml)) :
    Nat → List Char → Option (List (Key × Toml) × List Char)
  | 0, _ => none
  | limit + 1, cs => do
    let (pair, cs) ← pair? value cs
    match skipBlanks cs with
    | ',' :: cs => pairs? value (pair :: read) limit cs
    | '}' :: cs => return ((pair :: read).reverse, cs)
    | _ => none

/-- A truth value. -/
def boolean? : List Char → Option (Toml × List Char)
  | 't' :: 'r' :: 'u' :: 'e' :: rest => some (.boolean true, rest)
  | 'f' :: 'a' :: 'l' :: 's' :: 'e' :: rest => some (.boolean false, rest)
  | _ => none

/-- A value that holds no other values. -/
def simple? (cs : List Char) : Option (Toml × List Char) :=
  match cs with
  | [] => none
  | c :: _ =>
    if c = '"' ∨ c = '\'' then (string? cs).map fun (text, rest) => (.string text, rest)
    else if c = 't' ∨ c = 'f' then boolean? cs
    else if startsDate cs || startsTime cs then moment? cs
    else number? cs

/-- A value. Arrays and tables in braces may nest `room` levels deep. -/
def value? : Nat → List Char → Option (Toml × List Char)
  | 0, cs => if cs.head? = some '[' ∨ cs.head? = some '{' then none else simple? cs
  | room + 1, cs =>
    match cs with
    | '[' :: rest => do
      let (values, rest) ← items? (value? room) [] rest.length rest
      return (.array values, rest)
    | '{' :: rest =>
      match skipBlanks rest with
      | '}' :: rest => some (.table .inline [], rest)
      | _ => do
        let (pairs, rest) ← pairs? (value? room) [] rest.length rest
        return (← inlineTable? pairs, rest)
    | _ => simple? cs

/-- A header in single or double brackets. -/
def header? : List Char → Option (Statement × List Char)
  | '[' :: '[' :: cs => do
    let (key, cs) ← key? cs
    match cs with
    | ']' :: ']' :: cs => return (.elementHeader key, cs)
    | _ => none
  | '[' :: cs => do
    let (key, cs) ← key? cs
    match cs with
    | ']' :: cs => return (.header key, cs)
    | _ => none
  | _ => none

/-- A statement. -/
def statement? (cs : List Char) : Option (Statement × List Char) :=
  if cs.head? = some '[' then header? cs
  else (pair? (value? depthLimit) cs).map fun ((key, value), rest) => (.entry key value, rest)

/-- The statements of a text, each on lines of its own. Every step takes at least one character, so
`limit` may be the length of the text. -/
def statements? (read : List Statement) : Nat → List Char → Option (List Statement)
  | 0, cs => if cs.isEmpty then some read.reverse else none
  | limit + 1, cs =>
    match skipBlanks cs with
    | [] => some read.reverse
    | c :: rest =>
      if c = '\n' ∨ c = '#' then (endLine? (c :: rest)).bind (statements? read limit)
      else do
        let (statement, rest) ← statement? (c :: rest)
        statements? (statement :: read) limit (← endLine? rest)

/-- What follows the byte order mark, if the text starts with one. -/
def skipMark : List Char → List Char
  | '\ufeff' :: rest => rest
  | cs => cs

/-- The document that a text spells. -/
def parse? (text : String) : Option Entries := do
  let cs := joinBreaks (skipMark text.toList)
  ofStatements? (← statements? [] cs.length cs)

end DataTrail.Toml
