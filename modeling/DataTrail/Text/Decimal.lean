/-! Decimal numbers and the columns they stand in. -/

namespace DataTrail.Text

/-- The number that one ASCII digit or more spell. -/
def decimal? (cs : List Char) : Option Nat :=
  if cs ≠ [] ∧ cs.all Char.isDigit then
    some (cs.foldl (fun n c => 10 * n + (c.toNat - '0'.toNat)) 0)
  else none

/-- The first number that does not fit into 64 bits. -/
def wordBound : Nat := 0x10000000000000000

/-- The number below `wordBound` that digits spell. -/
def word? (cs : List Char) : Option Nat := (decimal? cs).filter (· < wordBound)

/-- Like `word?`, but a plus sign may stand in front. -/
def signedWord? : List Char → Option Nat
  | '+' :: cs => word? cs
  | cs => word? cs

/-- Puts blanks in front of a text until it has `width` characters. -/
def alignRight (width : Nat) (text : String) : String :=
  String.ofList (List.replicate (width - text.length) ' ') ++ text

end DataTrail.Text
