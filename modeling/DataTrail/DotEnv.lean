import DataTrail.Disk.Basic
import DataTrail.Text.Blank
import DataTrail.Text.Letters
import DataTrail.Text.Lines
import DataTrail.Text.Quoted

/-! Files that set environment variables, one on each line. Variables that are set already stay as
they are. The first line that is wrong ends the file; what stands before it counts. A value that no
variable can hold is worse than a wrong line: it ends the program. -/

namespace DataTrail.DotEnv

/-- What is wrong with a file. -/
inductive Error where
  /-- A line breaks the rules, at a position in it. -/
  | line (text : String) (position : Nat)
  | disk (fault : Fault)
  /-- A variable cannot hold the value it is given, which has a character with code 0. -/
  | unholdable (name value : String)
deriving DecidableEq, Repr

/-- What is wrong, in words. -/
def Error.message : Error → String
  | .line text position =>
    "Error parsing line: '" ++ text ++ "', error at line index: " ++ toString position
  | .disk fault => fault.message
  | .unholdable name value =>
    "failed to set environment variable `" ++ Text.quote name ++ "` to `" ++ Text.quote value ++
      "`: " ++ Fault.nulInPath.message

/-- Whether the program cannot go on. -/
def Error.isFatal : Error → Bool
  | .unholdable .. => true
  | .line .. | .disk _ => false

/-! Lines -/

/-- What is open at the end of a line. -/
inductive Opening where
  | nothing
  /-- A blank was read; a hash sign after it starts a comment. -/
  | blank
  | escape
  | strong
  | strongEscape
  | weak
  | weakEscape
deriving DecidableEq, Repr

/-- What a character opens or closes. -/
def Opening.next : Opening → Char → Opening
  | .escape, _ => .nothing
  | .strong, c => if c = '\\' then .strongEscape else if c = '\'' then .nothing else .strong
  | .strongEscape, _ => .strong
  | .weak, c => if c = '\\' then .weakEscape else if c = '"' then .nothing else .weak
  | .weakEscape, _ => .weak
  | opening, c =>
    if c = '\\' then .escape
    else if c = '"' then .weak
    else if c = '\'' then .strong
    else if opening = .nothing && Text.isBlank c && c ≠ '\n' && c ≠ '\r' then .blank
    else .nothing

/-- How a line ends: with something open or not, or in a comment after some characters. -/
inductive Ending where
  | opening (o : Opening)
  | comment (before : List Char)

/-- Finds out how a line ends; `read` holds the characters before, last first. -/
def Ending.ofLine (read : List Char) : Opening → List Char → Ending
  | o, [] => .opening o
  | o, c :: rest =>
    if o = .blank && c = '#' then .comment read.reverse
    else ofLine (c :: read) (o.next c) rest

/-- A line without its end. -/
def withoutEnd (cs : List Char) : List Char :=
  match cs.reverse with
  | '\n' :: '\r' :: rest => rest.reverse
  | '\n' :: rest => rest.reverse
  | _ => cs

/-- Joins the lines between which something stays open. `begun` holds what was begun, and `o` what
is open. -/
def joinLines (begun : List Char) (o : Opening) : List Bytes → List (Except Error (List Char))
  | [] =>
    if o = .nothing then []
    else
      let text := String.ofList begun
      [.error (.line text text.utf8ByteSize)]
  | raw :: rest =>
    match Text.decode? raw with
    | none => [.error (.disk .notText)]
    | some text =>
      let whole := begun ++ text.toList
      if (Text.trimStart whole).head? = some '#' then .ok [] :: joinLines [] .nothing rest
      else
        match Ending.ofLine [] o text.toList with
        | .comment before => .ok (begun ++ before) :: joinLines [] .nothing rest
        | .opening .nothing => .ok (withoutEnd whole) :: joinLines [] .nothing rest
        | .opening o => joinLines whole o rest

/-! Values -/

/-- The name of a variable that is being read within a value. -/
inductive Reference where
  | none
  /-- After a dollar sign. -/
  | bare (name : List Char)
  /-- After a dollar sign and an opening brace. -/
  | braced (name : List Char)

/-- Quotes that are open. -/
inductive Quote where
  | none
  | strong
  | weak
deriving DecidableEq

/-- Where the reader of a value is. Names and output are kept last character first. -/
structure ValueState where
  quote : Quote := .none
  escaped : Bool := false
  /-- A blank was read; only a comment may follow. -/
  ended : Bool := false
  reference : Reference := .none
  output : List Char := []

/-- Adds the value of a variable. -/
def ValueState.refer (s : ValueState) (lookup : String → String) (name : List Char) : ValueState :=
  { s with
    output := (lookup (String.ofList name.reverse)).toList.reverse ++ s.output
    reference := .none }

/-- Adds a character to the value. -/
def ValueState.push (s : ValueState) (c : Char) : ValueState := { s with output := c :: s.output }

/-- The character of an escape. -/
def escape? : Char → Option Char
  | '\\' => some '\\'
  | '\'' => some '\''
  | '"' => some '"'
  | '$' => some '$'
  | ' ' => some ' '
  | 'n' => some '\n'
  | _ => none

/-- Takes a character that is neither escaped nor part of a name. -/
def ValueState.plain (s : ValueState) (c : Char) : ValueState :=
  if c = '$' then { s with reference := .bare [] }
  else if s.quote = .weak then
    if c = '"' then { s with quote := .none }
    else if c = '\\' then { s with escaped := true }
    else s.push c
  else if c = '\'' then { s with quote := .strong }
  else if c = '"' then { s with quote := .weak }
  else if c = '\\' then { s with escaped := true }
  else if c = ' ' || c = '\t' then { s with ended := true }
  else s.push c

/-- Takes one character of a value that has not ended, unless it is wrong. The character after a
name without braces is taken as it is. -/
def ValueState.next? (lookup : String → String) (s : ValueState) (c : Char) : Option ValueState :=
  if s.escaped then (escape? c).map fun c => { s.push c with escaped := false }
  else if s.quote = .strong then
    some (if c = '\'' then { s with quote := .none } else s.push c)
  else
    match s.reference with
    | .none => some (s.plain c)
    | .bare name =>
      if Text.isLetterOrNumeral c then some { s with reference := .bare (c :: name) }
      else if c = '{' ∧ name = [] then some { s with reference := .braced [] }
      else
        let s := s.refer lookup name
        some (if c = '$' then { s with reference := .bare [] } else s.push c)
    | .braced name =>
      some (if c = '}' then s.refer lookup name else { s with reference := .braced (c :: name) })

/-- Reads a value from its `index`-th character on. It ends at a blank, after which only blanks and
a comment may follow. The error is the position of the character that is wrong. -/
def ValueState.run (lookup : String → String) (index : Nat) :
    ValueState → List Char → Except Nat ValueState
  | s, [] => .ok s
  | s, c :: rest =>
    if s.ended then
      if c = ' ' || c = '\t' then run lookup (index + 1) s rest
      else if c = '#' then .ok s
      else .error index
    else
      match s.next? lookup c with
      | none => .error index
      | some s => run lookup (index + 1) s rest

/-- A value. Quotes and braces must be closed. -/
def value (lookup : String → String) (cs : List Char) : Except Error String :=
  let text := String.ofList cs
  let unclosed : Error := .line text (text.utf8ByteSize - 1)
  match ValueState.run lookup 0 {} cs with
  | .error index => .error (.line text index)
  | .ok s =>
    if s.quote = .none then
      match s.reference with
      | .none => .ok (String.ofList s.output.reverse)
      | .bare name => .ok (String.ofList (s.refer lookup name).output.reverse)
      | .braced _ => .error unclosed
    else .error unclosed

/-! Assignments -/

/-- Whether a name may start with a character. -/
def startsName (c : Char) : Bool := c.isAlpha || c = '_'

/-- Whether a name may hold a character. -/
def isNameChar (c : Char) : Bool := c.isAlphanum || c = '_' || c = '.'

/-- A name, and what follows it and the blanks after it. -/
def name? (cs : List Char) : Option (String × List Char) :=
  match cs with
  | c :: _ =>
    if startsName c then
      some (String.ofList (cs.takeWhile isNameChar), Text.trimStart (cs.dropWhile isNameChar))
    else none
  | [] => none

/-- An assignment: a name and the text of its value. -/
structure Assignment where
  name : String
  text : List Char

/-- The name and the equals sign of an assignment. The error is what was left of the line. -/
def assignment (cs : List Char) : Except (List Char) Assignment :=
  match name? cs with
  | none => .error cs
  | some (name, '=' :: rest) => .ok ⟨name, Text.trimStart rest⟩
  | some (name, rest) =>
    if name ≠ "export" then .error rest
    else
      match name? rest with
      | none => .error rest
      | some (name, '=' :: rest) => .ok ⟨name, Text.trimStart rest⟩
      | some (_, rest) => .error rest

/-- How many bytes characters take. -/
def byteCount (cs : List Char) : Nat := (String.ofList cs).utf8ByteSize

/-- The variables that are set, and those that the file has given so far. -/
structure Variables where
  environment : List (String × String)
  given : List (String × String) := []

/-- What follows `start` in a list of characters that begins with it. -/
def after? (start cs : List Char) : Option (List Char) :=
  if start.isPrefixOf cs then some (cs.drop start.length) else none

/-- The value in the environment, which is a list of entries with a name, an equals sign and a value
each. What is asked for may reach beyond the name: after `A=B` in the entry `A=B=C` comes `C`. -/
def find? (environment : List (String × String)) (name : String) : Option String :=
  if name = "" then none
  else
    environment.findSome? fun (known, value) =>
      (after? (name.toList ++ ['=']) (known.toList ++ '=' :: value.toList)).map String.ofList

/-- The value of a variable; one that is not set is empty. -/
def Variables.lookup (v : Variables) (name : String) : String :=
  match find? v.environment name with
  | some value => value
  | none => (v.given.lookup name).getD ""

/-- Takes in an assignment. A variable that is set stays as it is. -/
def Variables.assign (v : Variables) (name value : String) : Except Error Variables :=
  let given := (name, value) :: v.given
  if (v.environment.lookup name).isSome then .ok { v with given }
  else if value.toList.contains '\x00' then .error (.unholdable name value)
  else .ok { environment := v.environment ++ [(name, value)], given }

/-- Takes in one line. -/
def Variables.line (v : Variables) (whole : List Char) : Except Error Variables :=
  let body := Text.trimStart (Text.trimEnd whole)
  if body.isEmpty || body.head? = some '#' then .ok v
  else
    match assignment body with
    | .error rest =>
      .error (.line (String.ofList whole) (byteCount (Text.trimEnd whole) - byteCount rest))
    | .ok a =>
      if a.text.isEmpty || a.text.head? = some '#' then v.assign a.name ""
      else value v.lookup a.text >>= v.assign a.name

/-- Takes in lines up to the first that is wrong. -/
def Variables.lines (v : Variables) : List (Except Error (List Char)) → Variables × Option Error
  | [] => (v, none)
  | .error e :: _ => (v, some e)
  | .ok line :: rest =>
    match v.line line with
    | .error e => (v, some e)
    | .ok v => v.lines rest

/-- The bytes of a byte order mark. -/
def mark : Bytes := [0xEF, 0xBB, 0xBF]

/-- The environment with the variables that the bytes of a file set, and what is wrong with the
file. -/
def extend (environment : List (String × String)) (bytes : Bytes) :
    List (String × String) × Option Error :=
  let bytes := if mark.isPrefixOf bytes then bytes.drop mark.length else bytes
  let (v, error) :=
    Variables.lines { environment } (joinLines [] .nothing (Text.linesWithEnds bytes))
  (v.environment, error)

/-- The name of the file. -/
def fileName : String := ".env"

variable {m : Type → Type} [Monad m]

/-- The environment with the variables of the first file that is found in the given directories, and
what is wrong with the file. -/
def load (disk : Disk m) (environment : List (String × String)) :
    List String → m (List (String × String) × Option Error)
  | [] => return (environment, none)
  | directory :: rest => do
    let path := Path.join directory fileName
    match ← disk.kind path with
    | .ok .file =>
      match ← disk.read path with
      | .ok bytes => return extend environment bytes
      | .error fault => return (environment, some (.disk fault))
    | .ok .directory => load disk environment rest
    | .error .notFound => load disk environment rest
    | .error fault => return (environment, some (.disk fault))

end DataTrail.DotEnv
