import DataTrail.Json.Basic
import DataTrail.Text.Decimal

/-! Reading JSON values as values of other types. A record is written as an object or as an array of
its fields in their order. How deep the part of a value that is read may nest is limited: a reader
takes the number of arrays and objects that may still be opened, its room. -/

namespace DataTrail.Json

/-- How deep arrays and objects may nest in a value that is read. -/
def fullRoom : Nat := 127

/-- The text of a string, if it has one. -/
def text? : Json → Option String
  | .string l => l
  | _ => none

/-- A truth value. -/
def bool? : Json → Option Bool
  | .bool b => some b
  | _ => none

/-- A natural number below 2^64, written with digits only. -/
def natural? : Json → Option Nat
  | .number written => Text.word? written.toList
  | _ => none

/-- Reads null as the absence of a value. -/
def orNull? (read : Json → Option α) : Json → Option (Option α)
  | .null => some none
  | j => (read j).map some

/-- The items of an array. -/
def items? : Json → Option (List Json)
  | .array items => some items
  | _ => none

/-- Reads an array, item by item. -/
def list? (read : Nat → Json → Option α) : Nat → Json → Option (List α)
  | 0, _ => none
  | room + 1, j => j.items?.bind (·.mapM (read room))

/-- Reads an array of texts. -/
def texts? : Nat → Json → Option (List String) := list? fun _ => text?

/-- The fields that a record gives, each at most once. -/
abbrev Fields := List (String × Json)

/-- The fields among `names` that a value gives. An object may give other fields too, as often as it
likes. An array gives the first of the names, and no more than there are. -/
def fields? (names : List String) : Json → Option Fields
  | .array items => if items.length ≤ names.length then some (names.zip items) else none
  | .object members => do
    let keyed ← members.mapM fun (key, value) => key.map (·, value)
    let known := keyed.filter (names.contains ·.1)
    if (known.map (·.1)).Nodup then some known else none
  | _ => none

/-- Reads a record with the given field names. -/
def record? (names : List String) (read : Nat → Fields → Option α) : Nat → Json → Option α
  | 0, _ => none
  | room + 1, j => (j.fields? names).bind (read room)

/-- A field that has to be there. -/
def Fields.required (fs : Fields) (name : String) (read : Json → Option α) : Option α :=
  (fs.lookup name).bind read

/-- A field that may be missing. -/
def Fields.optional (fs : Fields) (name : String) (read : Json → Option α) (absent : α) :
    Option α :=
  match fs.lookup name with
  | none => some absent
  | some j => read j

end DataTrail.Json
