/-! TOML documents as trees, and the rules by which tables may be opened and extended. -/

namespace DataTrail

/-- How a table came about. -/
inductive Toml.Origin where
  /-- It has a header of its own. -/
  | header
  /-- A longer header leads through it. -/
  | implied
  /-- A dotted key leads through it. -/
  | dotted
  /-- It is written in braces. -/
  | inline
deriving DecidableEq, Repr

/-- A TOML value. Floats and points in time are only known to be there. -/
inductive Toml where
  | string (text : String)
  | integer (value : Int)
  | float
  | boolean (value : Bool)
  | moment
  | array (items : List Toml)
  | table (origin : Toml.Origin) (entries : List (String × Toml))
  /-- Tables with the same header in double brackets, in order. -/
  | tables (elements : List (List (String × Toml)))
deriving Repr, Inhabited

namespace Toml

/-- The keys of a table, each once, with their values. -/
abbrev Entries := List (String × Toml)

/-- Puts a value in the place of another, or at the end. -/
def Entries.set (entries : Entries) (key : String) (value : Toml) : Entries :=
  if (entries.lookup key).isSome then
    entries.map fun (k, v) => if k = key then (k, value) else (k, v)
  else entries ++ [(key, value)]

/-- Applies `f` to the last element. -/
def changeLast? (f : Entries → Option Entries) : List Entries → Option (List Entries)
  | [] => none
  | [last] => (f last).map ([·])
  | first :: rest => (changeLast? f rest).map (first :: ·)

/-- Adds a value under a dotted key: `path` are its parts but the last. The tables on the path are
made by dotted keys only, but a longer key may lead through tables that a header implies or repeats.
-/
def Entries.add? (key : String) (value : Toml) : List String → Entries → Option Entries
  | [], entries => if (entries.lookup key).isSome then none else some (entries ++ [(key, value)])
  | first :: path, entries =>
    match entries.lookup first with
    | none => (add? key value path []).map fun inner => entries.set first (.table .dotted inner)
    | some (.table .dotted inner) =>
      (add? key value path inner).map fun inner => entries.set first (.table .dotted inner)
    | some (.table .implied inner) =>
      if path = [] then none
      else (add? key value path inner).map fun inner => entries.set first (.table .implied inner)
    | some (.tables elements) =>
      if path = [] then none
      else (changeLast? (add? key value path) elements).map fun elements =>
        entries.set first (.tables elements)
    | some _ => none

/-- Changes the table that a header path leads to. Tables that are missing are implied; of tables
with double brackets the last one counts. -/
def Entries.change? (f : Entries → Option Entries) : List String → Entries → Option Entries
  | [], entries => f entries
  | first :: path, entries =>
    match entries.lookup first with
    | none => (change? f path []).map fun inner => entries.set first (.table .implied inner)
    | some (.table .inline _) => none
    | some (.table origin inner) =>
      (change? f path inner).map fun inner => entries.set first (.table origin inner)
    | some (.tables elements) =>
      (changeLast? (change? f path) elements).map fun elements =>
        entries.set first (.tables elements)
    | some _ => none

/-- Opens the table of a header. It must be new, or so far only implied by longer headers. -/
def Entries.openTable? (key : String) (entries : Entries) : Option Entries :=
  match entries.lookup key with
  | none => some (entries.set key (.table .header []))
  | some (.table .implied inner) => some (entries.set key (.table .header inner))
  | some _ => none

/-- Opens one more table of a header in double brackets. -/
def Entries.openElement? (key : String) (entries : Entries) : Option Entries :=
  match entries.lookup key with
  | none => some (entries.set key (.tables [[]]))
  | some (.tables elements) => some (entries.set key (.tables (elements ++ [[]])))
  | some _ => none

/-- A key, as its parts. There is always at least one. -/
structure Key where
  path : List String
  last : String
deriving DecidableEq, Repr

/-- A statement of a document. -/
inductive Statement where
  | header (key : Key)
  | elementHeader (key : Key)
  | entry (key : Key) (value : Toml)

/-- The document so far, and the table that is open in it. -/
structure Document where
  entries : Entries := []
  current : List String := []

/-- Takes in one statement. -/
def Document.add? (d : Document) : Statement → Option Document
  | .header key => do
    let entries ← d.entries.change? (·.openTable? key.last) key.path
    return ⟨entries, key.path ++ [key.last]⟩
  | .elementHeader key => do
    let entries ← d.entries.change? (·.openElement? key.last) key.path
    return ⟨entries, key.path ++ [key.last]⟩
  | .entry key value => do
    let entries ← d.entries.change? (·.add? key.last value key.path) d.current
    return { d with entries }

/-- The document that statements make. -/
def ofStatements? (statements : List Statement) : Option Entries :=
  (statements.foldlM Document.add? {}).map (·.entries)

/-- The table in braces with the given entries. -/
def inlineTable? (pairs : List (Key × Toml)) : Option Toml :=
  (pairs.foldlM (fun (entries : Entries) (pair : Key × Toml) =>
    entries.add? pair.1.last pair.2 pair.1.path) []).map (.table .inline)

end Toml

end DataTrail
