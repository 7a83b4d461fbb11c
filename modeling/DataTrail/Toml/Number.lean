import DataTrail.Toml.Basic
import DataTrail.Json.Literal

/-! Numbers of TOML. Integers have 64 bits with sign; of floats it is only checked that they are
well written and do not exceed every double. -/

namespace DataTrail.Toml

/-- More digits, with single underscores between them; `read` holds those before, last first. -/
def moreDigits? (isDigit : Char → Bool) (read : List Char) :
    List Char → Option (List Char × List Char)
  | [] => some (read.reverse, [])
  | '_' :: d :: rest => if isDigit d then moreDigits? isDigit (d :: read) rest else none
  | c :: rest =>
    if isDigit c then moreDigits? isDigit (c :: read) rest
    else if c = '_' then none
    else some (read.reverse, c :: rest)

/-- One digit or more, with single underscores between them. -/
def digits? (isDigit : Char → Bool) : List Char → Option (List Char × List Char)
  | c :: rest => if isDigit c then moreDigits? isDigit [c] rest else none
  | [] => none

/-- Decimal digits without a leading zero. -/
def wholeDigits? : List Char → Option (List Char × List Char)
  | '0' :: rest => some (['0'], rest)
  | cs => digits? Char.isDigit cs

/-- A sign, if there is one: whether it is a minus, and what follows. -/
def sign : List Char → Bool × List Char
  | '+' :: rest => (false, rest)
  | '-' :: rest => (true, rest)
  | cs => (false, cs)

/-- The value of digits in a base. -/
def digitsValue (base : Nat) (digits : List Char) : Nat :=
  digits.foldl (fun n d => base * n + (Json.hexDigit? d).getD 0) 0

/-- The first size that no positive integer of 64 bits has. -/
def signBound : Nat := 0x8000000000000000

/-- The integer with the given sign and size, if it has 64 bits. -/
def integer? (negative : Bool) (size : Nat) : Option Toml :=
  if negative then if size ≤ signBound then some (.integer (-size)) else none
  else if size < signBound then some (.integer size) else none

/-- The digits of base 16. -/
def isHexDigit (c : Char) : Bool := (Json.hexDigit? c).isSome

/-- The digits of base 8. -/
def isOctalDigit (c : Char) : Bool := '0' ≤ c && c ≤ '7'

/-- The digits of base 2. -/
def isBinaryDigit (c : Char) : Bool := c = '0' || c = '1'

/-- An integer in a base that is a power of two, after its mark. -/
def radixInteger? (base : Nat) (isDigit : Char → Bool) (cs : List Char) :
    Option (Toml × List Char) := do
  let (digits, rest) ← digits? isDigit cs
  return (← integer? false (digitsValue base digits), rest)

/-- The least number that is rounded to infinity: half a step above the greatest double. -/
def overflowBound : Nat := Nat.pow 2 1024 - Nat.pow 2 970

/-- No number with digits that start above this power of ten is a finite double. -/
def exponentBound : Nat := 400

/-- Whether `digits` times ten to the power of `exponent` is rounded to infinity. -/
def overflows (digits : List Char) (exponent : Int) : Bool :=
  let digits := digits.dropWhile (· = '0')
  if digits.isEmpty then false
  else if digits.length + exponent > exponentBound then true
  else if digits.length + exponent < 0 then false
  else if 0 ≤ exponent then overflowBound ≤ digitsValue 10 digits * Nat.pow 10 exponent.toNat
  else overflowBound * Nat.pow 10 (-exponent).toNat ≤ digitsValue 10 digits

/-- The digits of a fraction, if there is one. -/
def fraction? : List Char → Option (List Char × List Char)
  | '.' :: rest => digits? Char.isDigit rest
  | cs => some ([], cs)

/-- The value of an exponent, if there is one. -/
def exponent? : List Char → Option (Int × List Char)
  | [] => some (0, [])
  | c :: rest =>
    if c = 'e' || c = 'E' then do
      let (negative, rest) := sign rest
      let (digits, rest) ← digits? Char.isDigit rest
      let size : Int := digitsValue 10 digits
      return (if negative then -size else size, rest)
    else some (0, c :: rest)

/-- A decimal integer or a float, after its sign. A float must not be too great; one that is too
small counts as minus infinity. -/
def decimal? (negative : Bool) (cs : List Char) : Option (Toml × List Char) := do
  let (whole, rest) ← wholeDigits? cs
  let isFloat := match rest with
    | c :: _ => c = '.' || c = 'e' || c = 'E'
    | [] => false
  if isFloat then
    let (fraction, rest) ← fraction? rest
    let (exponent, rest) ← exponent? rest
    if !negative && overflows (whole ++ fraction) (exponent - fraction.length) then none
    else return (.float, rest)
  else return (← integer? negative (digitsValue 10 whole), rest)

/-- A number. -/
def number? (cs : List Char) : Option (Toml × List Char) :=
  match cs with
  | '0' :: 'x' :: rest => radixInteger? 16 isHexDigit rest
  | '0' :: 'o' :: rest => radixInteger? 8 isOctalDigit rest
  | '0' :: 'b' :: rest => radixInteger? 2 isBinaryDigit rest
  | _ =>
    match sign cs with
    | (_, 'i' :: 'n' :: 'f' :: rest) => some (.float, rest)
    | (_, 'n' :: 'a' :: 'n' :: rest) => some (.float, rest)
    | (negative, rest) => decimal? negative rest

end DataTrail.Toml
