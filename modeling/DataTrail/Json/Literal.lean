import DataTrail.Json.Basic

/-! String literals of JSON: reading what stands between the quotes, and writing it. Escapes of the
form `\u` name 16-bit units; two of them, a high and a low surrogate, make one character. -/

namespace DataTrail.Json

/-- A piece of a string literal: a character, or the unit of a `\u` escape. -/
inductive Piece where
  | char (c : Char)
  | unit (value : Nat)
deriving DecidableEq, Repr

/-- The value of a hexadecimal digit. -/
def hexDigit? (c : Char) : Option Nat :=
  if '0' ≤ c ∧ c ≤ '9' then some (c.toNat - '0'.toNat)
  else if 'a' ≤ c ∧ c ≤ 'f' then some (c.toNat - 'a'.toNat + 10)
  else if 'A' ≤ c ∧ c ≤ 'F' then some (c.toNat - 'A'.toNat + 10)
  else none

/-- The value of four hexadecimal digits. -/
def hexUnit? (a b c d : Char) : Option Nat := do
  return ((((← hexDigit? a) * 16 + (← hexDigit? b)) * 16 + (← hexDigit? c)) * 16 + (← hexDigit? d))

/-- The character of an escape with one letter. -/
def shortEscape? : Char → Option Char
  | '"' => some '"'
  | '\\' => some '\\'
  | '/' => some '/'
  | 'b' => some '\x08'
  | 'f' => some '\x0c'
  | 'n' => some '\n'
  | 'r' => some '\r'
  | 't' => some '\t'
  | _ => none

/-- The pieces up to the closing quote, and what follows it. `read` holds the pieces before, last
first. Control characters are not allowed. -/
def literalPieces? (read : List Piece) : List Char → Option (List Piece × List Char)
  | '"' :: rest => some (read.reverse, rest)
  | '\\' :: 'u' :: a :: b :: c :: d :: rest =>
    match hexUnit? a b c d with
    | some u => literalPieces? (.unit u :: read) rest
    | none => none
  | '\\' :: e :: rest =>
    match shortEscape? e with
    | some c => literalPieces? (.char c :: read) rest
    | none => none
  | c :: rest => if c.toNat < 0x20 ∨ c = '\\' then none else literalPieces? (.char c :: read) rest
  | [] => none

/-- Whether a unit is the first half of a pair. -/
def isHighSurrogate (u : Nat) : Bool := 0xD800 ≤ u && u < 0xDC00

/-- Whether a unit is the second half of a pair. -/
def isLowSurrogate (u : Nat) : Bool := 0xDC00 ≤ u && u < 0xE000

/-- The characters that pieces stand for, unless one of them is a surrogate without its partner.
`read` holds the characters before, last first. -/
def Piece.characters? (read : List Char) : List Piece → Option (List Char)
  | [] => some read.reverse
  | .char c :: rest => characters? (c :: read) rest
  | .unit u :: rest =>
    if isHighSurrogate u then
      match rest with
      | .unit v :: rest =>
        if isLowSurrogate v then
          characters? (Char.ofNat (0x10000 + (u - 0xD800) * 0x400 + (v - 0xDC00)) :: read) rest
        else none
      | _ => none
    else if isLowSurrogate u then none
    else characters? (Char.ofNat u :: read) rest

/-- What pieces say. -/
def Piece.literal (pieces : List Piece) : Literal := (characters? [] pieces).map String.ofList

/-- The literal up to the closing quote, and what follows it. -/
def literal? (cs : List Char) : Option (Literal × List Char) :=
  (literalPieces? [] cs).map fun (pieces, rest) => (Piece.literal pieces, rest)

/-- The closing quote is taken at least. -/
theorem literalPieces?_length {cs : List Char} {read pieces : List Piece} {rest : List Char}
    (h : literalPieces? read cs = some (pieces, rest)) : rest.length < cs.length := by
  fun_induction literalPieces? read cs <;> simp_all <;> omega

/-- The closing quote is taken at least. -/
theorem literal?_length {cs rest : List Char} {l : Literal} (h : literal? cs = some (l, rest)) :
    rest.length < cs.length := by
  obtain ⟨⟨pieces, r⟩, hp, he⟩ := Option.map_eq_some_iff.1 h
  cases he
  exact literalPieces?_length hp

/-- A digit of the hexadecimal system, in lower case. -/
def hexChar (n : Nat) : Char :=
  if n < 10 then Char.ofNat ('0'.toNat + n) else Char.ofNat ('a'.toNat + (n - 10))

/-- A character inside a string literal: quotes, backslashes and control characters are escaped. -/
def escapeChar (c : Char) : List Char :=
  if c = '"' then ['\\', '"']
  else if c = '\\' then ['\\', '\\']
  else if c = '\x08' then ['\\', 'b']
  else if c = '\x0c' then ['\\', 'f']
  else if c = '\n' then ['\\', 'n']
  else if c = '\r' then ['\\', 'r']
  else if c = '\t' then ['\\', 't']
  else if c.toNat < 0x20 then
    ['\\', 'u', '0', '0', hexChar (c.toNat / 16), hexChar (c.toNat % 16)]
  else [c]

/-- A literal with its quotes. One without a text is written as a lone surrogate. -/
def Literal.render : Literal → String
  | some t => "\"" ++ String.ofList (t.toList.flatMap escapeChar) ++ "\""
  | none => "\"\\ud800\""

end DataTrail.Json
