import DataTrail.Json.Literal

/-! Blanks, comments and strings of TOML. Each reader gives what it read and what follows it. -/

namespace DataTrail.Toml

/-- Blanks within a line. -/
def isBlank (c : Char) : Bool := c = ' ' || c = '\t'

/-- What follows the blanks at the start. -/
def skipBlanks (cs : List Char) : List Char := cs.dropWhile isBlank

/-- Whether a character may stand in a comment or a string: all but the control characters, of which
the tab is allowed. -/
def isVisible (c : Char) : Bool := c = '\t' || (0x20 ≤ c.toNat && c.toNat ≠ 0x7F)

/-- Line breaks of two characters become line breaks of one. -/
def joinBreaks : List Char → List Char
  | '\r' :: '\n' :: rest => '\n' :: joinBreaks rest
  | c :: rest => c :: joinBreaks rest
  | [] => []

/-- What follows the comment at the start, if there is one. -/
def skipComment : List Char → List Char
  | '#' :: rest => rest.dropWhile isVisible
  | cs => cs

/-- What follows the end of a line, before which only blanks and a comment may stand. -/
def endLine? (cs : List Char) : Option (List Char) :=
  match skipComment (skipBlanks cs) with
  | [] => some []
  | '\n' :: rest => some rest
  | _ => none

/-- What follows blanks, line breaks and comments. A comment has to end in a line break. -/
def skipLines? (inComment : Bool) : List Char → Option (List Char)
  | [] => if inComment then none else some []
  | '\n' :: rest => skipLines? false rest
  | c :: rest =>
    if inComment then if isVisible c then skipLines? true rest else none
    else if isBlank c then skipLines? false rest
    else if c = '#' then skipLines? true rest
    else some (c :: rest)

/-- The character with the given code. -/
def scalar? (n : Nat) : Option Char :=
  if h : n.isValidChar then some (Char.ofNatAux n h) else none

/-- The character of an escape with one letter. -/
def shortEscape? : Char → Option Char
  | 'b' => some '\x08'
  | 't' => some '\t'
  | 'n' => some '\n'
  | 'f' => some '\x0c'
  | 'r' => some '\r'
  | '"' => some '"'
  | '\\' => some '\\'
  | _ => none

/-- `n` quotes and then what was read before them, last first. -/
def withQuotes (quote : Char) (n : Nat) (read : List Char) : List Char :=
  List.replicate n quote ++ read

/-- Where the reader of a string with escapes is. -/
inductive StringState where
  /-- Within the text, after a number of quotes. -/
  | text (quotes : Nat)
  /-- After a backslash. -/
  | escape
  /-- Within an escape that has `left` more digits. -/
  | digits (left value : Nat)
  /-- After a backslash and blanks; a line break must follow. -/
  | beforeBreak
  /-- After a backslash at the end of a line: blanks and line breaks drop out. -/
  | afterBreak

/-- The text of a string with escapes. A short string ends at a quote and stays on its line. A long
one ends at three quotes; up to two more in front of them belong to the text. `read` holds what came
before, last first. -/
def basicString? (long : Bool) (read : List Char) :
    StringState → List Char → Option (String × List Char)
  | .text n, [] =>
    if 3 ≤ n then some (String.ofList (withQuotes '"' (n - 3) read).reverse, []) else none
  | _, [] => none
  | .text n, c :: rest =>
    if c = '"' then
      if !long then some (String.ofList read.reverse, rest)
      else if n = 4 then some (String.ofList (withQuotes '"' 2 read).reverse, rest)
      else basicString? long read (.text (n + 1)) rest
    else if 3 ≤ n then some (String.ofList (withQuotes '"' (n - 3) read).reverse, c :: rest)
    else if c = '\\' then basicString? long (withQuotes '"' n read) .escape rest
    else if isVisible c || (long && c = '\n') then
      basicString? long (c :: withQuotes '"' n read) (.text 0) rest
    else none
  | .escape, c :: rest =>
    if c = 'u' then basicString? long read (.digits 4 0) rest
    else if c = 'U' then basicString? long read (.digits 8 0) rest
    else
      match shortEscape? c with
      | some x => basicString? long (x :: read) (.text 0) rest
      | none =>
        if long && isBlank c then basicString? long read .beforeBreak rest
        else if long && c = '\n' then basicString? long read .afterBreak rest
        else none
  | .digits left value, c :: rest =>
    match Json.hexDigit? c with
    | none => none
    | some d =>
      if 1 < left then basicString? long read (.digits (left - 1) (16 * value + d)) rest
      else
        match scalar? (16 * value + d) with
        | some x => basicString? long (x :: read) (.text 0) rest
        | none => none
  | .beforeBreak, c :: rest =>
    if isBlank c then basicString? long read .beforeBreak rest
    else if c = '\n' then basicString? long read .afterBreak rest
    else none
  | .afterBreak, c :: rest =>
    if isBlank c || c = '\n' then basicString? long read .afterBreak rest
    else if c = '"' then basicString? long read (.text 1) rest
    else if c = '\\' then basicString? long read .escape rest
    else if isVisible c then basicString? long (c :: read) (.text 0) rest
    else none

/-- The text up to the closing apostrophe on the same line. -/
def literalString? (read : List Char) : List Char → Option (String × List Char)
  | '\'' :: rest => some (String.ofList read.reverse, rest)
  | c :: rest => if isVisible c then literalString? (c :: read) rest else none
  | [] => none

/-- The text up to three closing apostrophes. Up to two more in front of them belong to the text;
`n` apostrophes were read last. -/
def longLiteral? (read : List Char) (n : Nat) : List Char → Option (String × List Char)
  | [] =>
    if 3 ≤ n then some (String.ofList (withQuotes '\'' (n - 3) read).reverse, []) else none
  | c :: rest =>
    if c = '\'' then
      if n = 4 then some (String.ofList (withQuotes '\'' 2 read).reverse, rest)
      else longLiteral? read (n + 1) rest
    else if 3 ≤ n then some (String.ofList (withQuotes '\'' (n - 3) read).reverse, c :: rest)
    else if isVisible c || c = '\n' then longLiteral? (c :: withQuotes '\'' n read) 0 rest
    else none

/-- What follows the line break at the start, if there is one. -/
def skipBreak : List Char → List Char
  | '\n' :: rest => rest
  | cs => cs

/-- A string of any of the four kinds. -/
def string? : List Char → Option (String × List Char)
  | '"' :: '"' :: '"' :: rest => basicString? true [] (.text 0) (skipBreak rest)
  | '"' :: rest => basicString? false [] (.text 0) rest
  | '\'' :: '\'' :: '\'' :: rest => longLiteral? [] 0 (skipBreak rest)
  | '\'' :: rest => literalString? [] rest
  | _ => none

/-- A string that stays on its line, of either kind. -/
def shortString? : List Char → Option (String × List Char)
  | '"' :: rest => basicString? false [] (.text 0) rest
  | '\'' :: rest => literalString? [] rest
  | _ => none

end DataTrail.Toml
