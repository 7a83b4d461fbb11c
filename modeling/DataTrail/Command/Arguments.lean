import DataTrail.Text.Decimal

/-! The arguments of the command line. -/

namespace DataTrail

/-- What the program can be told to do. -/
inductive Command where
  /-- Reads facts and writes a report for each unit with entry points. -/
  | analyze (facts : String) (out config : Option String) (namespaceDepth : Option Nat)
      (emitPartial : Bool)
  /-- Shows the reports of a directory on one page. -/
  | visualize (dir : String)
  /-- Prints the call graph of facts. -/
  | graph (facts : String) (output config : Option String)
deriving DecidableEq, Repr

namespace Command

/-- What the arguments ask for. -/
inductive Request where
  | run (verbose : Bool) (command : Command)
  | help
  | misuse
deriving DecidableEq, Repr

/-- What an option takes. -/
inductive OptionKind where
  | flag
  | path
  | number
deriving DecidableEq, Repr

/-- The names of the commands, each with its options. All of them take one path. -/
def options : List (String × List (String × OptionKind)) :=
  [("analyze", [("out", .path), ("config", .path), ("namespace-depth", .number),
      ("emit-partial", .flag), ("verbose", .flag)]),
   ("visualize", [("verbose", .flag)]),
   ("graph", [("output", .path), ("config", .path), ("verbose", .flag)])]

/-- The arguments of a command as far as they have been read. -/
structure Given where
  /-- The values of options; a flag has an empty one. -/
  options : List (String × String) := []
  path : Option String := none

/-- Whether a text can be the value of an option. -/
def OptionKind.accepts : OptionKind → String → Bool
  | .flag, _ => false
  | .path, value => value ≠ ""
  | .number, value => (Text.signedWord? value.toList).isSome

/-- An argument by its form. -/
inductive Form where
  /-- Two dashes: what follows is not an option. -/
  | separator
  /-- An option with a long name, and the value attached to it. -/
  | long (name : String) (value : Option String)
  /-- Options with names of one letter. -/
  | short (first : Char)
  | plain

/-- The form of an argument. A dash alone is plain. -/
def Form.of (argument : String) : Form :=
  match argument.toList with
  | ['-', '-'] => .separator
  | '-' :: '-' :: rest =>
    let value := match rest.dropWhile (· ≠ '=') with
      | '=' :: value => some (String.ofList value)
      | _ => none
    .long (String.ofList (rest.takeWhile (· ≠ '='))) value
  | '-' :: c :: _ => .short c
  | _ => .plain

/-- What came of reading arguments. -/
inductive Reading where
  | given (g : Given)
  | help
  | misuse

/-- Adds a flag, which may be given once. -/
def Given.flag? (g : Given) (name : String) : Option Given :=
  if (g.options.lookup name).isSome then none
  else some { g with options := g.options ++ [(name, "")] }

/-- Adds an option with its value, which may be given once. -/
def Given.option? (g : Given) (name : String) (kind : OptionKind) (value : String) : Option Given :=
  if kind.accepts value && (g.options.lookup name).isNone then
    some { g with options := g.options ++ [(name, value)] }
  else none

/-- Adds the path, which may be given once. -/
def Given.path? (g : Given) (path : String) : Option Given :=
  if g.path.isSome || path = "" then none else some { g with path := some path }

/-- Reads arguments that are not options. -/
def plainArguments (g : Given) : List String → Reading
  | [] => .given g
  | argument :: rest =>
    match g.path? argument with
    | some g => plainArguments g rest
    | none => .misuse

/-- Reads the arguments of a command with the given options. The value of an option is attached to
it, or is the next argument, which must then be plain; `awaiting` is the option whose value is next.
-/
def arguments (known : List (String × OptionKind)) (awaiting : Option (String × OptionKind))
    (g : Given) : List String → Reading
  | [] => if awaiting.isSome then .misuse else .given g
  | argument :: rest =>
    match awaiting, Form.of argument with
    | some (name, kind), .plain =>
      match g.option? name kind argument with
      | some g => arguments known none g rest
      | none => .misuse
    | some _, _ => .misuse
    | none, .separator => plainArguments g rest
    | none, .short c => if c = 'h' then .help else .misuse
    | none, .plain =>
      match g.path? argument with
      | some g => arguments known none g rest
      | none => .misuse
    | none, .long name attached =>
      if name = "help" ∧ attached = none then .help
      else
        match known.lookup name, attached with
        | none, _ => .misuse
        | some .flag, none =>
          match g.flag? name with
          | some g => arguments known none g rest
          | none => .misuse
        | some kind, none => arguments known (some (name, kind)) g rest
        | some kind, some value =>
          match g.option? name kind value with
          | some g => arguments known none g rest
          | none => .misuse

/-- The command with the given name and arguments. -/
def ofGiven? (name : String) (g : Given) : Option Command := do
  let path ← g.path
  let value (option : String) : Option String := g.options.lookup option
  let flag (option : String) : Bool := (g.options.lookup option).isSome
  match name with
  | "analyze" =>
    return .analyze path (value "out") (value "config")
      ((value "namespace-depth").bind (Text.signedWord? ·.toList)) (flag "emit-partial")
  | "visualize" => return .visualize path
  | "graph" => return .graph path (value "output") (value "config")
  | _ => none

/-- What `help` and the arguments after it ask for: help about the whole, or about one command. -/
def helpRequest : List String → Request
  | [] => .help
  | [name] => if (options.lookup name).isSome || name = "help" then .help else .misuse
  | _ => .misuse

/-- Reads the arguments of the program. The flag `--verbose` may stand before or after the command.
-/
def request (verbose : Bool) : List String → Request
  | [] => .misuse
  | argument :: rest =>
    match Form.of argument with
    | .separator => .misuse
    | .short c => if c = 'h' then .help else .misuse
    | .long name attached =>
      if name = "help" ∧ attached = none then .help
      else if name = "verbose" ∧ attached = none ∧ verbose = false then request true rest
      else .misuse
    | .plain =>
      if argument = "help" then helpRequest rest
      else
        match options.lookup argument with
        | none => .misuse
        | some known =>
          match arguments known none {} rest with
          | .help => .help
          | .misuse => .misuse
          | .given g =>
            match ofGiven? argument g with
            | some command => .run (verbose || (g.options.lookup "verbose").isSome) command
            | none => .misuse

/-- What the arguments of the program ask for. -/
def parse (args : List String) : Request := request false args

end Command

end DataTrail
